/-
Settings from the environment.

Five variables configure the program: the socket it listens on, the console's log
level, the log file, the table file, and whether accents are removed. A file of environment
variables in the program's directory overrides the environment; of the two that
may exist the local one counts, and the other is not even read then.

Starting sets up logging before it reads the number of the socket, so one that is
no integer is found only when the log has begun.

The settings are read where the service's module is loaded, `tableFile` is its
`rules_path`, and `removesAccents` its `remove_accents_enabled`.
-/
import Desinence.Loading
import Desinence.Logging
import Desinence.Settings.EnvFile
import Desinence.Letter.Case
import Desinence.Text.Integer
import Desinence.Text.Lines

set_option autoImplicit false

namespace Desinence

/-! ## The environment -/

/-- Variables and their values; the first of one name counts. -/
abbrev Environment := List (Text × Text)

namespace Environment

/-- The value of a variable. -/
def get? (env : Environment) (key : String) : Option Text :=
  env.lookup key.toList

/-- The value that a name stands for behind some lines of a file: the file's value,
which may be none and then is empty, or else the environment's. -/
def meaning (env : Environment) (above : EnvFile.Assignments) (name : Text) : Option Text :=
  match above.lookup name with
  | some value => some (value.getD [])
  | none => env.lookup name

/-- The variables of a file, the last first, with their references resolved one after
the other. -/
def resolve (env : Environment) (above : EnvFile.Assignments) :
    EnvFile.Assignments → EnvFile.Assignments
  | [] => above
  | (key, value) :: rest =>
    env.resolve ((key, value.map (EnvFile.interpolate (env.meaning above))) :: above) rest

/-- Why a variable cannot be set. -/
inductive Fault
  | nulCharacter
  | equalsSignInName
  deriving Repr, DecidableEq

/-- The message of a fault. -/
def Fault.message : Fault → Text
  | .nulCharacter => "embedded null byte".toList
  | .equalsSignInName => "illegal environment variable name".toList

/-- What is wrong with a name and its value, if anything. -/
def faultOf? (assignment : Text × Text) : Option Fault :=
  if assignment.1.contains '\x00' || assignment.2.contains '\x00' then some .nulCharacter
  else if assignment.1.contains '=' then some .equalsSignInName
  else none

/-- **The environment under a file's values.** A variable has the value of the last
line with its name, or none if that line gives none. -/
def overriddenBy (env : Environment) (file : Text) : Except Fault Environment :=
  let found := env.resolve [] (EnvFile.assignments file.unifyNewlines)
  let given := found.reverse.filterMap fun a => (found.lookup a.1).join.map (a.1, ·)
  match given.findSome? faultOf? with
  | some fault => .error fault
  | none => .ok (given ++ env)

/-- The environment under the local file, or failing that under the other. -/
def withFiles (env : Environment) (localFile file : Option Text) : Except Fault Environment :=
  match localFile, file with
  | some t, _ => env.overriddenBy t
  | none, some t => env.overriddenBy t
  | none, none => .ok env

end Environment

/-! ## Single settings -/

namespace Settings

/-- The table's file, the usual one if the environment names none. -/
def tableFile (usual : Path) (env : Environment) : Path :=
  match env.get? "RSLP_RULES_PATH" with
  | some t => .ofText t
  | none => usual

/-- Accents are removed unless a setting says otherwise; the only word for yes is
`true`, in any case. -/
def removesAccents (env : Environment) : Bool :=
  match env.get? "RSLP_REMOVE_ACCENTS" with
  | some t => t.lower == "true".toList
  | none => true

/-- What a word for a log level stands for: a level, a format of records, or all
the styles of formats, which have no more than a text to show them by. -/
inductive LevelWord
  | level (value : Int)
  | format (value : Text)
  | styles (shown : Text)
  deriving Repr, DecidableEq

/-- The styles of formats, as they are shown. -/
def styles : Text :=
  ("\x7b'%': (<class 'logging.PercentStyle'>, '%(levelname)s:%(name)s:%(message)s'), " ++
    "'\x7b': (<class 'logging.StrFormatStyle'>, " ++
    "'\x7blevelname\x7d:\x7bname\x7d:\x7bmessage\x7d'), " ++
    "'$': (<class 'logging.StringTemplateStyle'>, " ++
    "'$\x7blevelname\x7d:$\x7bname\x7d:$\x7bmessage\x7d')\x7d").toList

/-- **The meaning of a level's name**, in any case. A name that means nothing
stands for the usual level; one that means formats is no level at all. -/
def levelWord (name : Text) : LevelWord :=
  let named : List (Text × LevelWord) :=
    [("DEBUG".toList, .level Level.debug), ("INFO".toList, .level Level.info),
     ("WARN".toList, .level Level.warning), ("WARNING".toList, .level Level.warning),
     ("ERROR".toList, .level Level.error), ("CRITICAL".toList, .level Level.critical),
     ("FATAL".toList, .level Level.critical), ("NOTSET".toList, .level Level.notset),
     ("BASIC_FORMAT".toList, .format "%(levelname)s:%(name)s:%(message)s".toList),
     ("_STYLES".toList, .styles styles)]
  (named.lookup name.upper).getD (.level Level.info)

/-- The number of the socket as it is given. -/
def socketText (env : Environment) : Text :=
  (env.get? "PORT").getD "8080".toList

/-- The options that logging is set up with, at a console level. -/
def loggingOptions (env : Environment) (consoleLevel : Int) : Logging.Options :=
  { Logging.Options.standard with
    logFile := (env.get? "LOG_FILE").getD Logging.Options.standard.logFile
    consoleLevel }

/-! ## Starting -/

/-- Why the program does not start. -/
inductive Fault
  | logging (fault : Logging.SetupFault)
  | unknownLevel (value : Text)
  | noLevel (shown : Text)
  | socket (fault : IntegerFault)
  deriving Repr, DecidableEq

/-- The message of a fault. -/
def Fault.message : Fault → Text
  | .logging fault => fault.message
  | .unknownLevel value => "Unknown level: ".toList ++ value.quoted
  | .noLevel shown => "Level not an integer or a valid string: ".toList ++ shown
  | .socket fault => fault.message

/-- The fault of a word that is no level. It is found when there is already room for
the session log. -/
def refuseLevel (env : Environment) (files : FileTree) (fault : Fault) : Fault :=
  match Logging.makeRoom (loggingOptions env Level.info) files with
  | .ok _ => fault
  | .error earlier => .logging earlier

/-- Sets up logging as the environment has it. -/
def startLogging (env : Environment) (start : Timestamp) (files : FileTree) :
    Except Fault Logging.State :=
  match levelWord ((env.get? "LOG_LEVEL").getD "INFO".toList) with
  | .level level => (Logging.setup (loggingOptions env level) start [] files).mapError .logging
  | .format value => .error (refuseLevel env files (.unknownLevel value))
  | .styles shown => .error (refuseLevel env files (.noLevel shown))

/-- **What a start leaves**: the number of the socket, the table's file, the choice
about accents, and logging at work. -/
structure Started where
  socket : Int
  tableFile : Path
  removeAccents : Bool
  logging : Logging.State
  deriving Repr, DecidableEq

/-- **Starts the program** in an environment. -/
def start (usual : Path) (env : Environment) (time : Timestamp) (files : FileTree) :
    Except Fault Started :=
  match startLogging env time files with
  | .error fault => .error fault
  | .ok logging =>
    match Text.readInteger (socketText env) with
    | .error fault => .error (.socket fault)
    | .ok socket => .ok ⟨socket, tableFile usual env, removesAccents env, logging⟩

end Settings

end Desinence
