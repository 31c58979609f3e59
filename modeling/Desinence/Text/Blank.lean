/-
White space.

A blank is a character with the `White_Space` property or one of the four
information separators U+001C to U+001F. There are twenty-nine of them. Records
of a table file may hold blanks between any two of their parts, and `strip`
drops them from both ends of a text.

It is white space as `strip` and the `\s` of a pattern have it.
-/
import Desinence.Text

set_option autoImplicit false

namespace Desinence

/-- **Blank characters**: tabulator to carriage return, the information
separators, the space, U+0085, and the spaces and separators beyond ASCII. -/
def isBlank (c : Char) : Bool :=
  let n := c.toNat
  (0x09 ≤ n && n ≤ 0x0D) || (0x1C ≤ n && n ≤ 0x20) || n == 0x85 || n == 0xA0 ||
    n == 0x1680 || (0x2000 ≤ n && n ≤ 0x200A) || n == 0x2028 || n == 0x2029 ||
    n == 0x202F || n == 0x205F || n == 0x3000

namespace Text

/-- The text from its first character that is not blank. -/
def skipBlanks (t : Text) : Text :=
  t.dropWhile isBlank

/-- The text up to its last character that is not blank. -/
def trimEnd (t : Text) : Text :=
  (skipBlanks t.reverse).reverse

/-- The text without the blanks at its two ends. -/
def strip (t : Text) : Text :=
  trimEnd (skipBlanks t)

end Text

/-- Every white-space character of ASCII as core knows it is a blank. -/
theorem isBlank_of_isWhitespace {c : Char} (h : c.isWhitespace = true) : isBlank c = true := by
  simp only [Char.isWhitespace, Bool.or_eq_true, decide_eq_true_eq] at h
  rcases h with ((rfl | rfl) | rfl) | rfl <;> decide

end Desinence
