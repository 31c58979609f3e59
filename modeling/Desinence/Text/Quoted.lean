/-
Quoted text, as messages show it.

A text is shown between two quote marks, single ones unless it holds a single
and no double mark. The mark itself and the backslash are escaped with a
backslash, tabulator, line feed and carriage return by their letters, and every
other unprintable character by its code point in hexadecimal: two, four or
eight digits, the fewest that fit. All other characters stand for themselves.

`quoted` is `repr` of a string, which messages and log records show.
-/
import Desinence.Text.Hexadecimal
import Desinence.Text.UnprintableRanges

set_option autoImplicit false

namespace Desinence

/-- Printable characters have ink, or are the space U+0020. -/
def isPrintable (c : Char) : Bool :=
  let n := c.toNat
  !unprintableRanges.any (fun r => r.1 ≤ n && n ≤ r.2)

namespace Text

/-- The quote mark a text is shown in. -/
def quoteMark (t : Text) : Char :=
  if t.contains '\'' && !t.contains '"' then '"' else '\''

/-- How a character is shown between quote marks `mark`. -/
def escapeChar (mark c : Char) : Text :=
  if c = '\\' ∨ c = mark then ['\\', c]
  else if c = '\t' then ['\\', 't']
  else if c = '\n' then ['\\', 'n']
  else if c = '\r' then ['\\', 'r']
  else if isPrintable c then [c]
  else if c.toNat < 0x100 then '\\' :: 'x' :: hexDigits 2 c.toNat
  else if c.toNat < 0x10000 then '\\' :: 'u' :: hexDigits 4 c.toNat
  else '\\' :: 'U' :: hexDigits 8 c.toNat

/-- **The text between quote marks**, escaped. -/
def quoted (t : Text) : Text :=
  let mark := quoteMark t
  mark :: t.flatMap (escapeChar mark) ++ [mark]

end Text

end Desinence
