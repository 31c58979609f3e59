/-
Numbers in decimal.

A numeral of a table file is a run of the ten ASCII digits and denotes what it
spells in base ten, leading zeros included.

Its value is what `int` makes of it.
-/
import Desinence.Text

set_option autoImplicit false

namespace Desinence

/-- The ten ASCII digits. -/
def isDigit (c : Char) : Bool :=
  '0' ≤ c && c ≤ '9'

/-- What a digit counts. -/
def digitValue (c : Char) : Nat :=
  c.toNat - '0'.toNat

/-- The most digits a numeral may have. -/
def numeralLimit : Nat := 4300

namespace Text

/-- **The value of a numeral**: the digits weighted by powers of ten. -/
def decimalValue (t : Text) : Nat :=
  t.foldl (fun n c => 10 * n + digitValue c) 0

/-- The numeral of a natural number, without leading zeros. -/
def ofNat (n : Nat) : Text :=
  Nat.toDigits 10 n

/-- The numeral of an integer; a negative one has a minus sign in front. -/
def ofInt : Int → Text
  | .ofNat n => ofNat n
  | .negSucc n => '-' :: ofNat (n + 1)

/-- The numeral of a natural number with zeros in front, at least `width` digits
long. -/
def zeroPadded (width n : Nat) : Text :=
  let t := ofNat n
  List.replicate (width - t.length) '0' ++ t

end Text

end Desinence
