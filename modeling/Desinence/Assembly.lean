/-
Assembling a table from the lines of a file.

Between two stages the next line must be a header. Inside a stage every line is
a rule, and the one that ends with the terminator is the stage's last. `step` is
this machine for one line that says something; `readLines` drives it over the
lines of a file, skips those that say nothing, and collects the stages as they
are completed. It stops at the first fault and keeps what was complete by then.

`step` is `transition` over `AwaitingStageHeader` and `InsideStage`; `readLines`
and `Table.parse` are the loop of `parse_rules`, whose log records `Loading` adds.
-/
import Desinence.Record
import Desinence.Text.Lines

set_option autoImplicit false

namespace Desinence

/-- **Where the reading stands**: between stages, or inside one with the rules
so far. -/
inductive Assembly
  | between
  | inside (header : Header) (rules : List Rule)
  deriving Repr, DecidableEq

namespace Assembly

/-- **One line.** The new standing, and the stage if the line completes one. A
rule between stages belongs to none, which is said in so many words; whatever
else does not fit is a bad header or a bad rule, by where it stands. -/
def step : Assembly → Text → Except RecordFault (Assembly × Option Stage)
  | between, line =>
    if looksLikeRule line then .error (.format .ownerlessRule line)
    else (fun h => (inside h [], none)) <$> readHeader line
  | inside h rules, line =>
    if endsStage line then
      (fun r => (between, some (h.stage (rules ++ [r])))) <$> readRule (withoutTerminator line)
    else (fun r => (inside h (rules ++ [r]), none)) <$> readRule line

end Assembly

/-- What came of reading: the completed stages, and the fault if there was
one. -/
structure Reading where
  stages : List Stage
  fault : Option TableFault
  deriving Repr, DecidableEq

/-- The reading with a stage in front. -/
def Reading.push (r : Reading) : Option Stage → Reading
  | some s => ⟨s :: r.stages, r.fault⟩
  | none => r

/-- **Reads lines** from a standing on; `number` is the first line's number.
Lines are stripped before they are read, but reported whole. -/
def readLines : Assembly → Nat → List Text → Reading
  | .between, _, [] => ⟨[], none⟩
  | .inside h _, _, [] => ⟨[], some (.format ⟨.unterminatedStage h.name, none, none⟩)⟩
  | a, number, line :: rest =>
    if isSilent line.strip then readLines a (number + 1) rest
    else match a.step line.strip with
      | .error fault => ⟨[], some (fault.inLine line number)⟩
      | .ok (next, completed) => (readLines next (number + 1) rest).push completed

namespace Table

/-- Reads the text of a table file. -/
def reading (source : Text) : Reading :=
  readLines .between 1 source.lines

/-- **The table that a text describes**, all of it or a fault. -/
def parse (source : Text) : Except TableFault Table :=
  match (reading source).fault with
  | none => .ok (reading source).stages
  | some fault => .error fault

end Table

end Desinence
