/-
Lines of a text.

A line ends at any of ten boundary characters, and a carriage return with the
line feed after it is one boundary. The boundary belongs to no line, and a text
that ends with a boundary has no empty line after it, so the empty text has no
lines at all.

`unifyNewlines` is what a text file undergoes when it is read: the two spellings
of a newline that use a carriage return become a line feed. It leaves the other
boundaries alone and does not change the lines.

`lines` is `splitlines`.
-/
import Desinence.Text

set_option autoImplicit false

namespace Desinence

/-- **Line boundaries**: line feed, vertical tab, form feed, carriage return,
three information separators, next line, line and paragraph separator. -/
def isLineEnd (c : Char) : Bool :=
  let n := c.toNat
  (0x0A ≤ n && n ≤ 0x0D) || (0x1C ≤ n && n ≤ 0x1E) || n == 0x85 || n == 0x2028 || n == 0x2029

namespace Text

/-- The lines of a text, without their boundaries. -/
def lines : Text → List Text
  | [] => []
  | '\r' :: '\n' :: r => [] :: lines r
  | c :: r =>
    if isLineEnd c then [] :: lines r
    else match lines r with
      | [] => [[c]]
      | l :: ls => (c :: l) :: ls

/-- Every newline written as one line feed. -/
def unifyNewlines : Text → Text
  | [] => []
  | '\r' :: '\n' :: r => '\n' :: unifyNewlines r
  | '\r' :: r => '\n' :: unifyNewlines r
  | c :: r => c :: unifyNewlines r

end Text

end Desinence
