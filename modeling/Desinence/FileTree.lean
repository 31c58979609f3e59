/-
A tree of files and folders, as a program sees it.

An entry of the tree is a file with its bytes or a folder. Entries are keyed by
their location, the list of names from the root of the tree. The working
directory and what is above it always exist; a path without a root starts there.

A path is followed part by part. Every part but the last must lead to a folder,
so a path may fail in two ways before its end is reached: something on the way
is missing, or it is a file. Besides, there are limits on the bytes of a part and
of the whole path.

It stands for what the program does to files by way of `pathlib`: `read_text`
(`read`), `mkdir` with its parents (`makeFolders`), `unlink` (`removeFile`), and
the appending of a log handler (`append`).
-/
import Desinence.Path
import Desinence.Text.Quoted
import Desinence.Text.Decimal
import Desinence.Text.Utf8

set_option autoImplicit false

namespace Desinence

/-- The names on the way from the root. -/
abbrev Location := List Text

/-- A file with its bytes, or a folder. -/
inductive Entry
  | file (content : Bytes)
  | folder
  deriving Repr, DecidableEq

/-! ## Faults -/

/-- What can go wrong with a path. -/
inductive PathFlaw
  | missing
  | alreadyThere
  | notAFolder
  | isAFolder
  | nameTooLong
  | nulCharacter
  deriving Repr, DecidableEq

/-- A flaw and the path that has it. -/
structure FileFault where
  flaw : PathFlaw
  path : Path
  deriving Repr, DecidableEq

/-- The system's number and words for a flaw; a NUL character has none. -/
def PathFlaw.systemError? : PathFlaw → Option (Nat × Text)
  | .missing => some (2, "No such file or directory".toList)
  | .alreadyThere => some (17, "File exists".toList)
  | .notAFolder => some (20, "Not a directory".toList)
  | .isAFolder => some (21, "Is a directory".toList)
  | .nameTooLong => some (36, "File name too long".toList)
  | .nulCharacter => none

/-- What is said about a fault. -/
def FileFault.message (f : FileFault) : Text :=
  match f.flaw.systemError? with
  | some (number, words) =>
    "[Errno ".toList ++ Text.ofNat number ++ "] ".toList ++ words ++ ": ".toList ++
      f.path.text.quoted
  | none => "embedded null byte".toList

/-! ## The tree -/

/-- **A tree of files**: its working directory, and what it holds beside the
folders on the way there. -/
structure FileTree where
  workDir : Location
  entries : List (Location × Entry)
  deriving Repr, DecidableEq

namespace FileTree

/-- What is at a location. -/
def get? (t : FileTree) (loc : Location) : Option Entry :=
  if loc.isPrefixOf t.workDir then some .folder else t.entries.lookup loc

/-- The tree with an entry at a location, whatever was there. -/
def put (t : FileTree) (loc : Location) (e : Entry) : FileTree :=
  { t with entries := (loc, e) :: t.entries.filter fun p => p.1 != loc }

/-- The tree without the entry at a location. -/
def erase (t : FileTree) (loc : Location) : FileTree :=
  { t with entries := t.entries.filter fun p => p.1 != loc }

/-- Dropping the entries of one location does not touch another. -/
theorem lookup_filter_ne {entries : List (Location × Entry)} {loc loc' : Location}
    (h : loc' ≠ loc) : (entries.filter fun p => p.1 != loc).lookup loc' = entries.lookup loc' := by
  induction entries with
  | nil => rfl
  | cons p ps ih =>
    obtain ⟨l, e⟩ := p
    by_cases hl : l = loc
    · have hne : (loc' == l) = false := by simpa [hl] using h
      simp only [hl, bne_self_eq_false, Bool.false_eq_true, not_false_eq_true,
        List.filter_cons_of_neg, ih]
      rw [← hl, List.lookup_cons, hne]
    · simp [hl, List.lookup_cons, ih]

/-- Dropping the entries of one location leaves nothing there. -/
theorem lookup_filter_self {entries : List (Location × Entry)} {loc : Location} :
    (entries.filter fun p => p.1 != loc).lookup loc = none := by
  simp only [List.lookup_eq_none_iff, List.mem_filter, bne_iff_ne, and_imp]
  exact fun p _ hp => by simpa using Ne.symm hp

/-- A new entry is found at its own location and hides no other. -/
theorem get?_put {t : FileTree} {loc loc' : Location} {e : Entry} :
    (t.put loc e).get? loc' =
      if loc'.isPrefixOf t.workDir then some .folder
      else if loc' = loc then some e else t.get? loc' := by
  by_cases hw : loc'.isPrefixOf t.workDir
  · simp [get?, put, hw]
  · by_cases h : loc' = loc
    · simp [get?, put, h]
    · have hne : (loc' == loc) = false := by simp [h]
      simp only [get?, put, hw, h, List.lookup_cons, hne, lookup_filter_ne h]
      simp

/-- An erased entry is gone, and every other is still there. -/
theorem get?_erase {t : FileTree} {loc loc' : Location} :
    (t.erase loc).get? loc' =
      if loc'.isPrefixOf t.workDir then some .folder
      else if loc' = loc then none else t.get? loc' := by
  by_cases hw : loc'.isPrefixOf t.workDir
  · simp [get?, erase, hw]
  · by_cases h : loc' = loc
    · subst h
      simp [get?, erase, hw, lookup_filter_self]
    · simp [get?, erase, hw, h, lookup_filter_ne h]

/-- The tree with an entry at a location, and with folders above it where nothing
was. A folder does not take the place of what is there. -/
def plant (t : FileTree) (loc : Location) (e : Entry) : FileTree :=
  let above := ((List.range loc.length).map loc.take).filter fun l => (t.get? l).isNone
  let t := above.foldl (fun t l => t.put l .folder) t
  match e, t.get? loc with
  | .folder, some _ => t
  | e, _ => t.put loc e

/-- The most bytes a part of a path may have. -/
def partLimit : Nat := 255

/-- The most bytes a path may have. -/
def pathLimit : Nat := 4095

/-- Follows the parts of a path from a location on. -/
def follow (t : FileTree) (loc : Location) : List Text → Except PathFlaw Location
  | [] => .ok loc
  | part :: rest =>
    match t.get? loc with
    | none => .error .missing
    | some (.file _) => .error .notAFolder
    | some .folder =>
      if partLimit < (Utf8.encode part).length then .error .nameTooLong
      else t.follow (if part = ['.', '.'] then loc.dropLast else loc ++ [part]) rest

/-- **Where a path leads.** Its end need not exist. -/
def locate (t : FileTree) (p : Path) : Except PathFlaw Location :=
  if p.parts.any (·.contains '\x00') then .error .nulCharacter
  else if pathLimit < (Utf8.encode p.text).length then .error .nameTooLong
  else t.follow (if p.root = 0 then t.workDir else []) p.parts

/-- What a path leads to. -/
def entryAt (t : FileTree) (p : Path) : Except PathFlaw Entry :=
  match t.locate p with
  | .error flaw => .error flaw
  | .ok loc =>
    match t.get? loc with
    | some e => .ok e
    | none => .error .missing

/-- Whether a path leads to a folder. -/
def isFolder (t : FileTree) (p : Path) : Bool :=
  match t.entryAt p with
  | .ok .folder => true
  | _ => false

/-- **Reads a file.** -/
def read (t : FileTree) (p : Path) : Except FileFault Bytes :=
  match t.entryAt p with
  | .ok (.file content) => .ok content
  | .ok .folder => .error ⟨.isAFolder, p⟩
  | .error flaw => .error ⟨flaw, p⟩

/-- Adds bytes to the end of a file, which is created if it is missing. -/
def append (t : FileTree) (p : Path) (bytes : Bytes) : Except FileFault FileTree :=
  match t.locate p with
  | .error flaw => .error ⟨flaw, p⟩
  | .ok loc =>
    match t.get? loc with
    | some .folder => .error ⟨.isAFolder, p⟩
    | some (.file content) => .ok (t.put loc (.file (content ++ bytes)))
    | none => .ok (t.put loc (.file bytes))

/-- Makes one folder; whatever is above it must exist. -/
def makeFolder (t : FileTree) (p : Path) : Except PathFlaw FileTree :=
  match t.locate p with
  | .error flaw => .error flaw
  | .ok loc =>
    match t.get? loc with
    | some _ => .error .alreadyThere
    | none => .ok (t.put loc .folder)

/-- Makes the folder of a path whose parts are given from the last to the first.
If something above it is missing, that is made first and then the folder is tried
once more. Where a folder is already there, nothing is amiss. -/
def makeFoldersUp (t : FileTree) (root : Nat) : List Text → Except FileFault FileTree
  | [] =>
    match t.makeFolder ⟨root, []⟩ with
    | .ok t' => .ok t'
    | .error flaw => if t.isFolder ⟨root, []⟩ then .ok t else .error ⟨flaw, ⟨root, []⟩⟩
  | part :: up =>
    let p : Path := ⟨root, up.reverse ++ [part]⟩
    let settle (t : FileTree) (flaw : PathFlaw) : Except FileFault FileTree :=
      if t.isFolder p then .ok t else .error ⟨flaw, p⟩
    match t.makeFolder p with
    | .ok t' => .ok t'
    | .error .missing =>
      match t.makeFoldersUp root up with
      | .error fault => .error fault
      | .ok t' =>
        match t'.makeFolder p with
        | .ok t'' => .ok t''
        | .error flaw => settle t' flaw
    | .error flaw => settle t flaw

/-- **Makes a folder and all that is missing above it.** A folder that exists is
left as it is. -/
def makeFolders (t : FileTree) (p : Path) : Except FileFault FileTree :=
  t.makeFoldersUp p.root p.parts.reverse

/-- The names of what is directly inside a location. -/
def namesIn (t : FileTree) (loc : Location) : List Text :=
  t.entries.filterMap fun p =>
    if p.1 ≠ [] ∧ p.1.dropLast = loc then p.1.getLast? else none

/-- Removes a file. A folder stays. -/
def removeFile (t : FileTree) (loc : Location) : FileTree :=
  match t.get? loc with
  | some (.file _) => t.erase loc
  | _ => t

/-- Everything below the working directory, by its path from there; the paths of
folders end with a slash. -/
def listing (t : FileTree) : List Text :=
  let shown := t.entries.filterMap fun p =>
    if t.workDir.isPrefixOf p.1 ∧ t.workDir ≠ p.1 then
      let path := Text.joinWith ['/'] (p.1.drop t.workDir.length)
      some (match p.2 with
        | .folder => path ++ ['/']
        | .file _ => path)
    else none
  Text.sorted shown

end FileTree

end Desinence
