/-
Session logs and their retention.

Every start of the program writes a log of its own. Its name is the stem of the
configured path, an underscore, the time of the start, and `.log`; the digits of
the time are ordered from the year to the second, so that names of one stem sort
by time. Before a new log is made, all but the newest of those that fit the
pattern `stem_*.log` are removed, so that with the new one as many remain as are
to be kept.

`cleanup` is `cleanup_session_logs`; the names are made in `setup_logging`.
-/
import Desinence.FileTree
import Desinence.Glob

set_option autoImplicit false

namespace Desinence

/-- A time of day on a day. -/
structure Timestamp where
  year : Nat
  month : Nat
  day : Nat
  hour : Nat
  minute : Nat
  second : Nat
  deriving Repr, DecidableEq

/-- The digits of a time: the year, month and day, an underscore, the hour,
minute and second. All but the year have two digits. -/
def Timestamp.stamp (t : Timestamp) : Text :=
  Text.ofNat t.year ++ Text.zeroPadded 2 t.month ++ Text.zeroPadded 2 t.day ++ ['_'] ++
    Text.zeroPadded 2 t.hour ++ Text.zeroPadded 2 t.minute ++ Text.zeroPadded 2 t.second

namespace SessionLog

/-- The ending of all session logs. -/
def extension : Text :=
  ".log".toList

/-- **The name of a session log.** -/
def nameOf (stem : Text) (start : Timestamp) : Text :=
  stem ++ ['_'] ++ start.stamp ++ extension

/-- The path of the session log that a start makes. -/
def pathOf (base : Path) (start : Timestamp) : Path :=
  base.parent.child (nameOf base.stem start)

/-- The pattern that the session logs of a stem fit. The stem is not escaped: its
stars, question marks and brackets have their meaning in patterns. -/
def patternOf (stem : Text) : Text :=
  stem ++ "_*".toList ++ extension

/-- Why old session logs cannot be looked for: the pattern cannot be used for names,
or the folder's path cannot be followed. -/
inductive CleanupFault
  | doubleStar
  | file (fault : FileFault)
  deriving Repr, DecidableEq

/-- The message of a fault. -/
def CleanupFault.message : CleanupFault → Text
  | .doubleStar => "Invalid pattern: '**' can only be an entire path component".toList
  | .file fault => fault.message

/-- The names in a folder that fit a stem's pattern, the last in order first. -/
def namesFitting (t : FileTree) (folder : Location) (stem : Text) : List Text :=
  (Text.sorted ((t.namesIn folder).filter (Glob.fits (Glob.pieces (patternOf stem))))).reverse

/-- How many of the existing logs are left when one more is about to be made. -/
def leftOf (keep : Int) : Nat :=
  (keep - 1).toNat

/-- **Removes old session logs.** Of the names that fit, the first few in
descending order stay and the files among the others go. A folder that is not
there holds nothing to remove; one whose name is too long is a fault. -/
def cleanup (t : FileTree) (base : Path) (keep : Int) : Except CleanupFault FileTree :=
  if Glob.hasDoubleStar (patternOf base.stem) then .error .doubleStar
  else match t.isFolder base.parent, t.locate base.parent with
    | _, .error .nameTooLong => .error (.file ⟨.nameTooLong, base.parent⟩)
    | true, .ok folder =>
      let old := (namesFitting t folder base.stem).drop (leftOf keep)
      .ok (old.foldl (fun t name => t.removeFile (folder ++ [name])) t)
    | _, _ => .ok t

end SessionLog

end Desinence
