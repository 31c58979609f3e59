/-
Integers as people write them.

Beside the plain numeral this reading admits white space at both ends, a sign,
single underscores between digits, and the decimal digits of every script. In
ASCII only the six blanks of old count as white space here; the information
separators do not. An integer may have as many digits as any numeral of a table
file.

It is `int`, as the settings apply it to the number of the socket.
-/
import Desinence.FormatError
import Desinence.Text.Blank

set_option autoImplicit false

namespace Desinence

/-- The zeros of the scripts beyond ASCII that have decimal digits; the other nine
digits of each follow its zero. Characters as in the Unicode character database,
version 14.0. -/
def digitZeros : List Nat :=
  [0x660, 0x6F0, 0x7C0, 0x966, 0x9E6, 0xA66, 0xAE6, 0xB66, 0xBE6, 0xC66, 0xCE6, 0xD66, 0xDE6,
  0xE50, 0xED0, 0xF20, 0x1040, 0x1090, 0x17E0, 0x1810, 0x1946, 0x19D0, 0x1A80, 0x1A90, 0x1B50,
  0x1BB0, 0x1C40, 0x1C50, 0xA620, 0xA8D0, 0xA900, 0xA9D0, 0xA9F0, 0xAA50, 0xABF0, 0xFF10,
  0x104A0, 0x10D30, 0x11066, 0x110F0, 0x11136, 0x111D0, 0x112F0, 0x11450, 0x114D0, 0x11650,
  0x116C0, 0x11730, 0x118E0, 0x11950, 0x11C50, 0x11D50, 0x11DA0, 0x16A60, 0x16AC0, 0x16B50,
  0x1D7CE, 0x1D7D8, 0x1D7E2, 0x1D7EC, 0x1D7F6, 0x1E140, 0x1E2F0, 0x1E950, 0x1FBF0]

/-- Why a text is no integer. -/
inductive IntegerFault
  | malformed (text : Text)
  | longNumeral (digits : Nat)
  deriving Repr, DecidableEq

/-- The message of a fault. Of a malformed text no more than two hundred
characters are shown. -/
def IntegerFault.message : IntegerFault → Text
  | .malformed t => "invalid literal for int() with base 10: ".toList ++ t.quoted.take 200
  | .longNumeral digits => longNumeralMessage digits

/-- The ASCII character that a character counts as: a blank as a space, a digit as
the digit of its value, and anything else beyond ASCII as what no integer has. -/
def plainForm (c : Char) : Char :=
  if c.toNat < 0x80 then c
  else if isBlank c then ' '
  else match digitZeros.find? (fun z => z ≤ c.toNat && c.toNat < z + 10) with
    | some z => Char.ofNat (0x30 + (c.toNat - z))
    | none => '?'

/-- The white space around an integer: space, and tabulator to carriage return. -/
def isPlainSpace (c : Char) : Bool :=
  c == ' ' || (0x09 ≤ c.toNat && c.toNat ≤ 0x0D)

namespace Text

/-- Whether every underscore stands between two digits of a run of digits and
underscores. -/
def underscoresFit : Text → Bool
  | [] => true
  | [c] => c != '_'
  | '_' :: _ => false
  | _ :: '_' :: r => underscoresFit r && !r.isEmpty
  | _ :: c :: r => underscoresFit (c :: r)

/-- **Reads an integer.** -/
def readInteger (t : Text) : Except IntegerFault Int :=
  let plain := (t.map plainForm).dropWhile isPlainSpace
  let negative := plain.head? == some '-'
  let body := if negative || plain.head? == some '+' then plain.tail else plain
  let run := body.takeWhile fun c => isDigit c || c == '_'
  let digits := run.filter isDigit
  let rest := (body.drop run.length).dropWhile isPlainSpace
  if !underscoresFit run then .error (.malformed t)
  else if numeralLimit < digits.length then .error (.longNumeral digits.length)
  else if run.isEmpty || !rest.isEmpty then .error (.malformed t)
  else .ok (if negative then -(decimalValue digits : Int) else decimalValue digits)

end Text

end Desinence
