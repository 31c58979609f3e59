/-
Checking a table file.

The check loads a table, prints a summary of its stages, and shows the stems of
sample words. It takes the table's file and the words as arguments; without
arguments it checks the file at a path of its own, and asked for help it explains
itself.

A format error and a missing file are what the check is for: it reports them and
its status is 1. Any other fault is not its business and is passed on.

`run` is `check_rules.main`, whose own path is `DEFAULT_RULES`; `summary` is
`describe_stages`.
-/
import Desinence.Loading
import Desinence.Stemmer

set_option autoImplicit false

namespace Desinence

namespace Check

/-- How the check is called: the command, a sample file for the help text, and the
file that is checked without arguments. -/
structure Invocation where
  command : Text
  sampleFile : Text
  defaultFile : Path
  deriving Repr, DecidableEq

/-- **What a check leaves**: what it prints on the two outputs, and its status or
the fault that it passes on. -/
structure Report where
  out : Text
  err : Text
  status : Except LoadFault Nat

/-- The texts, each as a line. -/
def printed (lines : List Text) : Text :=
  lines.flatMap (· ++ ['\n'])

/-- The help text. -/
def usage (i : Invocation) : List Text :=
  ["Usage:".toList,
   "  ".toList ++ i.command ++ " [RULES_FILE] [WORD ...]".toList,
   [],
   "Examples:".toList,
   "  ".toList ++ i.command,
   "  ".toList ++ i.command ++ [' '] ++ i.sampleFile ++ " casas caminhando".toList]

/-- The column heads of the summary, in the widths of `stageRow`. -/
def headRow : Text :=
  Text.padRight 16 "Stage".toList ++ [' '] ++ Text.padLeft 7 "Min len".toList ++ [' '] ++
    Text.padLeft 10 "Whole-word".toList ++ [' '] ++ Text.padLeft 6 "Rules".toList ++
    "  Conditions".toList

/-- The conditions of a stage, or a dash for none. -/
def conditionsCell (s : Stage) : Text :=
  let joined := Text.joinWith ", ".toList s.conditions
  if joined.isEmpty then ['-'] else joined

/-- **One stage of the summary.** A cell wider than its column pushes the others
to the right. -/
def stageRow (s : Stage) : Text :=
  Text.padRight 16 s.name ++ [' '] ++ Text.padLeft 7 (Text.ofNat s.minWord) ++ [' '] ++
    Text.padLeft 10 (if s.wholeWord then "yes".toList else "no".toList) ++ [' '] ++
    Text.padLeft 6 (Text.ofNat s.rules.length) ++ "  ".toList ++ conditionsCell s

/-- The summary of a table. -/
def summary (t : Table) : List Text :=
  [List.replicate 80 '=', headRow, List.replicate 80 '-'] ++ t.map stageRow ++
    [List.replicate 80 '=']

/-- A sample word and its stem, accents removed. -/
def sampleLine (t : Table) (w : Text) : Text :=
  "  ".toList ++ w ++ " → ".toList ++ (Stemmer.mk t true).stem w

/-- Whether the arguments ask for help. -/
def asksForHelp : List Text → Bool
  | first :: _ => first == "-h".toList || first == "--help".toList
  | [] => false

/-- The file to check and the sample words. -/
def fileAndWords (i : Invocation) : List Text → Path × List Text
  | [] => (i.defaultFile, [])
  | file :: words => (.ofText file, words)

/-- The report on a fault. -/
def reportFault (path : Path) (fault : LoadFault) : Report :=
  if fault.isFormatError || fault.isMissingFile then
    ⟨[], printed ["Error loading ".toList ++ path.text ++ ": ".toList ++ fault.message], .ok 1⟩
  else ⟨[], [], .error fault⟩

/-- **The check.** -/
def run (i : Invocation) (files : FileTree) (args : List Text) : Report :=
  if asksForHelp args then ⟨printed (usage i), [], .ok 0⟩
  else
    let (path, words) := fileAndWords i args
    match (load files path).result with
    | .error fault => reportFault path fault
    | .ok table => ⟨printed (summary table ++ words.map (sampleLine table)), [], .ok 0⟩

end Check

end Desinence
