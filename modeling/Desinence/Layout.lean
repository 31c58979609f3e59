/-
Writing tables.

Every stage is a header line and a line for each of its rules. All fields are
written, also those that a reader would supply: the replacement may be empty and
the lists may have no items. A rule line ends with a comma, the last one of a
stage with the terminator.

The notation is that of the rule files as the specification describes it; the
program itself only reads it.
-/
import Desinence.Record

set_option autoImplicit false

namespace Desinence

/-- A field between quote marks. -/
def quotedField (t : Text) : Text :=
  '"' :: t ++ ['"']

/-- A list of quoted fields in braces. -/
def bracedList (items : List Text) : Text :=
  '{' :: Text.joinWith [','] (items.map quotedField) ++ ['}']

/-- The record of a rule, without what ends its line. -/
def Rule.record (r : Rule) : Text :=
  '{' :: quotedField r.suffix ++ [','] ++ Text.ofNat r.minStem ++ [','] ++
    quotedField r.replacement ++ [','] ++ bracedList r.exceptions ++ ['}']

/-- The header line of a stage. -/
def Stage.headerLine (s : Stage) : Text :=
  ['{', ' '] ++ quotedField s.name ++ ", ".toList ++ Text.ofNat s.minWord ++ ", ".toList ++
    (if s.wholeWord then ['1'] else ['0']) ++ ", ".toList ++ bracedList s.conditions ++ [',']

/-- The rule lines of a stage. -/
def ruleLines : List Rule → List Text
  | [] => []
  | [r] => [r.record ++ terminator]
  | r :: s :: rest => (r.record ++ [',']) :: ruleLines (s :: rest)

/-- The lines of a stage. -/
def Stage.lines (s : Stage) : List Text :=
  s.headerLine :: ruleLines s.rules

/-- **The text of a table.** -/
def Table.write (t : Table) : Text :=
  (t.flatMap Stage.lines).flatMap (· ++ ['\n'])

end Desinence
