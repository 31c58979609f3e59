/-
Log records and levels.

A level is an integer; six of them have names. A record tells at which level
which part of the library reported what.

The levels and their names are those of `logging`; the two channels are the
loggers of the rule parser and of the service.
-/
import Desinence.Text.Decimal

set_option autoImplicit false

namespace Desinence

namespace Level

/-- No level of its own. -/
def notset : Int := 0
/-- Details for whoever looks for a fault. -/
def debug : Int := 10
/-- What goes on. -/
def info : Int := 20
/-- Something may be amiss. -/
def warning : Int := 30
/-- Something failed. -/
def error : Int := 40
/-- The program cannot go on. -/
def critical : Int := 50

/-- **The name of a level**; one without a name is shown by its number. -/
def name (level : Int) : Text :=
  if level = notset then "NOTSET".toList
  else if level = debug then "DEBUG".toList
  else if level = info then "INFO".toList
  else if level = warning then "WARNING".toList
  else if level = error then "ERROR".toList
  else if level = critical then "CRITICAL".toList
  else "Level ".toList ++ Text.ofInt level

end Level

/-- The parts of the library that report: the reading of tables and the
service. -/
inductive Channel
  | table
  | service
  deriving Repr, DecidableEq

/-- **A log record.** -/
structure LogRecord where
  level : Int
  channel : Channel
  message : Text
  deriving Repr, DecidableEq

end Desinence
