/-
Logging to the console and to a session log.

Setting up makes the folder of the log, removes old session logs, opens the new
one, and then announces itself as the first record. From then on a record goes
to the console if it reaches the console's level and to the file if it reaches
the file's, but to neither unless it reaches the level of its logger. Loggers
are named by dotted paths, and a logger comes to be known when it is set quiet or
first used. A quiet logger has the level of warnings, and so has every logger
below it; all others have the level of the root.

`setup` is `setup_logging`; the tree of loggers and the handlers' levels are those
of `logging`.
-/
import Desinence.Log
import Desinence.SessionLog

set_option autoImplicit false

namespace Desinence

namespace Logging

/-- **What logging is set up with.** -/
structure Options where
  logFile : Text
  consoleLevel : Int
  fileLevel : Int
  keepSessions : Int
  quietLoggers : List Text
  deriving Repr, DecidableEq

/-- The options of a program that gives none. -/
def Options.standard : Options where
  logFile := "logs/rslp-stemmer.log".toList
  consoleLevel := Level.info
  fileLevel := Level.debug
  keepSessions := 5
  quietLoggers := ["uvicorn.access".toList, "httpx".toList, "httpcore".toList]

/-- Why logging cannot be set up. -/
inductive SetupFault
  | file (fault : FileFault)
  | cleanup (fault : SessionLog.CleanupFault)
  deriving Repr, DecidableEq

/-- The message of a fault. -/
def SetupFault.message : SetupFault → Text
  | .file fault => fault.message
  | .cleanup fault => fault.message

/-! ## Loggers -/

/-- The name of the root logger. -/
def rootName : Text :=
  "root".toList

/-- The root logger goes by its name and by none. -/
def isRoot (logger : Text) : Bool :=
  logger.isEmpty || logger == rootName

/-- The beginnings of a name that is given from its end on, each up to a dot, the
longest first. Neither a dot in front of the name counts nor one right before
another that does; `passing` says that the next character is in that place. -/
def beginnings (passing : Bool) : Text → List Text
  | [] => []
  | c :: r =>
    if passing then beginnings false r
    else if c = '.' then if r.isEmpty then [] else r.reverse :: beginnings true r
    else beginnings false r

/-- **The parent of a logger**: the nearest one known of those it is named below. If
there is none, its parent is the root. -/
def parentOf? (known : List Text) (logger : Text) : Option Text :=
  (beginnings false logger.reverse).find? fun name => known.contains name

/-- Whether a logger or one above it is quiet, where no more than `height` are above
it. -/
def isQuietBelow (quiet known : List Text) : Nat → Text → Bool
  | 0, logger => quiet.contains logger
  | height + 1, logger =>
    quiet.contains logger ||
      match parentOf? known logger with
      | some parent => isQuietBelow quiet known height parent
      | none => false

/-- Whether a logger or one above it is quiet. The names get shorter on the way
up. -/
def isQuiet (quiet known : List Text) (logger : Text) : Bool :=
  isQuietBelow quiet known logger.length logger

/-- The loggers of some names, without the root. -/
def belowRoot (names : List Text) : List Text :=
  names.filter fun name => !isRoot name

/-- The level of the root logger: lowest, unless it is itself to be quiet. -/
def rootLevel (quiet : List Text) : Int :=
  if quiet.any isRoot then Level.warning else Level.debug

/-- **The level of a logger.** -/
def levelOf (quiet known : List Text) (logger : Text) : Int :=
  if !isRoot logger && isQuiet (belowRoot quiet) known logger then Level.warning
  else rootLevel quiet

/-! ## Records -/

/-- A record of some logger. -/
structure Message where
  logger : Text
  level : Int
  text : Text
  deriving Repr, DecidableEq

/-- The name under which a logger is shown. -/
def shownName (logger : Text) : Text :=
  if isRoot logger then rootName else logger

/-- The line on the console: brief. -/
def consoleLine (m : Message) : Text :=
  Level.name m.level ++ ": ".toList ++ m.text ++ ['\n']

/-- The line in the file, without the time at its beginning. -/
def fileLine (m : Message) : Text :=
  Text.padRight 8 (Level.name m.level) ++ " | ".toList ++ shownName m.logger ++ " | ".toList ++
    m.text ++ ['\n']

/-! ## The state -/

/-- **Logging at work**: the options it was set up with, the loggers known, its
session log, what the console shows, and the files. -/
structure State where
  options : Options
  known : List Text
  sessionLog : Path
  console : Text
  files : FileTree
  deriving Repr, DecidableEq

/-- Writes one message where its level lets it. -/
def write (s : State) (m : Message) : Except SetupFault State :=
  if m.level < levelOf s.options.quietLoggers s.known m.logger then .ok s
  else
    let console := if s.options.consoleLevel ≤ m.level then s.console ++ consoleLine m
      else s.console
    if s.options.fileLevel ≤ m.level then
      match s.files.append s.sessionLog (Utf8.encode (fileLine m)) with
      | .ok files => .ok { s with console, files }
      | .error fault => .error (.file fault)
    else .ok { s with console }

/-- **Logs one message.** Its logger is known from then on. -/
def emit (s : State) (m : Message) : Except SetupFault State :=
  write { s with known := belowRoot [m.logger] ++ s.known } m

/-- Logs messages in order. -/
def emitAll : State → List Message → Except SetupFault State
  | s, [] => .ok s
  | s, m :: rest =>
    match emit s m with
    | .ok s' => emitAll s' rest
    | .error fault => .error fault

/-- The record with which logging announces itself. -/
def announcement (o : Options) (sessionLog : Path) : Message where
  logger := rootName
  level := Level.info
  text := "Logging configured: console=".toList ++ Level.name o.consoleLevel ++ ", file=".toList ++
    sessionLog.text ++ " (".toList ++ Level.name o.fileLevel ++ ")".toList

/-- Makes room for a session log: its folder is there, and old ones are gone. -/
def makeRoom (o : Options) (files : FileTree) : Except SetupFault FileTree :=
  let base := Path.ofText o.logFile
  match files.makeFolders base.parent with
  | .error fault => .error (.file fault)
  | .ok files => (SessionLog.cleanup files base o.keepSessions).mapError .cleanup

/-- Opens the session log for which there is room, and announces it on top of what
the console already shows. -/
def openLog (o : Options) (start : Timestamp) (console : Text) (files : FileTree) :
    Except SetupFault State :=
  let sessionLog := SessionLog.pathOf (Path.ofText o.logFile) start
  match files.append sessionLog [] with
  | .error fault => .error (.file fault)
  | .ok files =>
    emit ⟨o, belowRoot o.quietLoggers, sessionLog, console, files⟩ (announcement o sessionLog)

/-- **Sets logging up**, on top of what the console already shows. -/
def setup (o : Options) (start : Timestamp) (console : Text) (files : FileTree) :
    Except SetupFault State :=
  match makeRoom o files with
  | .error fault => .error fault
  | .ok files => openLog o start console files

/-- Sets logging up once and then so many times more, always at the same time of
day and with the same options. -/
def setupTimes (o : Options) (start : Timestamp) (more : Nat) (console : Text) (files : FileTree) :
    Except SetupFault State :=
  match setup o start console files with
  | .error fault => .error fault
  | .ok s =>
    match more with
    | 0 => .ok s
    | n + 1 => setupTimes o start n s.console s.files

end Logging

end Desinence
