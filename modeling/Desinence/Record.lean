/-
Header records and rule records.

    HEADER    a brace, a quoted name, two numerals, and the list of conditions
              in braces or brackets, which runs to the end of the line
    RULE      a brace, a quoted suffix, a numeral, an optional quoted
              replacement, an optional braced list of exceptions, a brace; what
              follows the closing brace does not matter

A record is read in two steps. `RuleParts.read?` and `HeaderParts.read?` take
the line apart without interpreting its parts, so they are the grammar. `rule`
and `header` then give the parts their values, and only here can a numeral turn
out too long.

The last rule of a stage has the two characters of `terminator` behind it.

`readHeader` is `parse_stage_header` and `readRule` is `parse_rule`; the parts are
the groups of `_HEADER_RE` and `_RULE_RE`. `isSilent`, `endsStage` and
`looksLikeRule` are `is_blank_or_comment`, `ends_stage` and `looks_like_rule`.
-/
import Desinence.FormatError
import Desinence.Record.Part
import Desinence.Rule

set_option autoImplicit false

namespace Desinence

/-! ## Kinds of lines -/

/-- What ends the last rule of a stage: a closing brace and a semicolon. -/
def terminator : Text :=
  ['}', ';']

/-- Lines that say nothing: the empty line, and comments. -/
def isSilent (line : Text) : Bool :=
  line.isEmpty || line.head? == some '#'

/-- Whether the line ends with the terminator. -/
def endsStage (line : Text) : Bool :=
  line.endsWith terminator

/-- The line without its last two characters. -/
def withoutTerminator (line : Text) : Text :=
  line.take (line.length - terminator.length)

/-! ## The parts of a record -/

/-- The parts of a rule record as they stand in the line. -/
structure RuleParts where
  suffix : Text
  numeral : Text
  replacement : Option Text
  exceptions : Option Text
  deriving Repr, DecidableEq

/-- **The parts of a rule record**, if the line begins with one. -/
def RuleParts.read? (line : Text) : Option RuleParts := do
  let t ← Record.readChar '{' line
  let (suffix, t) ← Record.readQuoted t.skipBlanks
  let t ← Record.readComma t
  let (numeral, t) ← Record.readNumeral t
  let (replacement, t) := Record.readOptional Record.readQuoted t
  let (exceptions, t) := Record.readOptional Record.readBraced t
  let _ ← Record.readChar '}' t.skipBlanks
  return ⟨suffix, numeral, replacement, exceptions⟩

/-- The parts of a header record as they stand in the line; `conditions` begins
with the opening brace or bracket. -/
structure HeaderParts where
  name : Text
  minWord : Text
  flag : Text
  conditions : Text
  deriving Repr, DecidableEq

/-- The list of conditions: an opening brace or bracket and all that follows,
which holds no line feed but perhaps one at its very end. That one is no part of
the list. -/
def readConditions : Text → Option Text
  | [] => none
  | c :: r =>
    if c = '{' ∨ c = '[' then
      match r.dropWhile (· != '\n') with
      | [] | ['\n'] => some (c :: r.takeWhile (· != '\n'))
      | _ => none
    else none

/-- **The parts of a header record**, if the line is one. -/
def HeaderParts.read? (line : Text) : Option HeaderParts := do
  let t ← Record.readChar '{' line
  let (name, t) ← Record.readQuoted t.skipBlanks
  guard !name.isEmpty
  let t ← Record.readComma t
  let (minWord, t) ← Record.readNumeral t
  let t ← Record.readComma t
  let (flag, t) ← Record.readNumeral t
  let t ← Record.readComma t
  return ⟨name, minWord, flag, ← readConditions t⟩

/-! ## Values -/

/-- What is wrong with a record: it does not fit, or a numeral has so many
digits. -/
inductive RecordFault
  | format (reason : FormatReason) (text : Text)
  | longNumeral (digits : Nat)
  deriving Repr, DecidableEq

/-- The fault as one of a file, at a line given in full and with its number. -/
def RecordFault.inLine (line : Text) (number : Nat) : RecordFault → TableFault
  | .format reason _ => .format ⟨reason, some line, some number⟩
  | .longNumeral digits => .longNumeral digits

/-- The fault as one of a single record. -/
def RecordFault.alone : RecordFault → TableFault
  | .format reason text => .format ⟨reason, some text, none⟩
  | .longNumeral digits => .longNumeral digits

/-- The value of a numeral within the limit. -/
def lengthOf (numeral : Text) : Except RecordFault Nat :=
  if numeral.length ≤ numeralLimit then .ok numeral.decimalValue
  else .error (.longNumeral numeral.length)

/-- The rule that the parts describe. A missing replacement is empty, a missing
list has no exceptions. -/
def RuleParts.rule (p : RuleParts) : Except RecordFault Rule := do
  return {
    suffix := p.suffix
    minStem := ← lengthOf p.numeral
    replacement := p.replacement.getD []
    exceptions := Record.quotedItems (p.exceptions.getD []) }

/-- A stage without its rules. -/
structure Header where
  name : Text
  minWord : Nat
  wholeWord : Bool
  conditions : List Text
  deriving Repr, DecidableEq

/-- The stage with this header and these rules. -/
def Header.stage (h : Header) (rules : List Rule) : Stage :=
  ⟨h.name, h.minWord, h.wholeWord, h.conditions, rules⟩

/-- The header that the parts describe. The flag is on when it is spelled `1`
and in no other way. -/
def HeaderParts.header (p : HeaderParts) : Except RecordFault Header := do
  return {
    name := p.name
    minWord := ← lengthOf p.minWord
    wholeWord := p.flag == ['1']
    conditions := Record.quotedItems p.conditions }

/-- **Reads a rule record.** -/
def readRule (line : Text) : Except RecordFault Rule :=
  match RuleParts.read? line with
  | some p => p.rule
  | none => .error (.format .badRule line)

/-- **Reads a header record.** -/
def readHeader (line : Text) : Except RecordFault Header :=
  match HeaderParts.read? line with
  | some p => p.header
  | none => .error (.format .badHeader line)

/-- Whether the line, less a terminator, begins with a rule record. -/
def looksLikeRule (line : Text) : Bool :=
  (RuleParts.read? (if endsStage line then withoutTerminator line else line)).isSome

end Desinence
