/-
What can be wrong with a table file.

A format error has a reason, and where one line is to blame also that line and
perhaps its number. Its message puts the number in front of the reason and the
quoted line behind it, each only if there is one. A number in the file that has
too many digits is a fault of its own, without a place.

`FormatError` and `complaint` are `RuleFormatError`; the fault without a place is
what `int` raises beyond its limit of digits.
-/
import Desinence.Text.Decimal
import Desinence.Text.Quoted

set_option autoImplicit false

namespace Desinence

/-- Why a line, or the end of the file, does not fit. -/
inductive FormatReason
  | badHeader
  | badRule
  | ownerlessRule
  | unterminatedStage (name : Text)
  deriving Repr, DecidableEq

/-- The wording of a reason. -/
def FormatReason.text : FormatReason → Text
  | .badHeader => "invalid stage header".toList
  | .badRule => "invalid rule".toList
  | .ownerlessRule => "rule without an owning stage".toList
  | .unterminatedStage name =>
    "unterminated stage '".toList ++ name ++ "' (missing '".toList ++ ['}', ';'] ++ "')".toList

/-- **A message about a place in a file**: `line N: reason: 'text'`, where the
number and the quoted text may be missing. -/
def complaint (reason : Text) (line : Option Text) (number : Option Int) : Text :=
  let place := match number with
    | some n => "line ".toList ++ Text.ofInt n ++ ": ".toList
    | none => []
  let shown := match line with
    | some t => ": ".toList ++ t.quoted
    | none => []
  place ++ reason ++ shown

/-- **A format error.** -/
structure FormatError where
  reason : FormatReason
  line : Option Text
  number : Option Nat
  deriving Repr, DecidableEq

/-- The message of a format error. -/
def FormatError.message (e : FormatError) : Text :=
  complaint e.reason.text e.line (e.number.map Int.ofNat)

/-- What is said about a numeral with more digits than the limit. -/
def longNumeralMessage (digits : Nat) : Text :=
  "Exceeds the limit (".toList ++ Text.ofNat numeralLimit ++
    " digits) for integer string conversion: value has ".toList ++ Text.ofNat digits ++
    " digits; use sys.set_int_max_str_digits() to increase the limit".toList

/-- **What stops the reading of a table**: a format error, or a numeral of so
many digits. -/
inductive TableFault
  | format (e : FormatError)
  | longNumeral (digits : Nat)
  deriving Repr, DecidableEq

/-- The message of a fault. -/
def TableFault.message : TableFault → Text
  | .format e => e.message
  | .longNumeral digits => longNumeralMessage digits

end Desinence
