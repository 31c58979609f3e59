/-
Name patterns.

In a pattern a star stands for any run of characters, a question mark for any
one character, and a bracketed set for one of the characters it lists. A set may
hold ranges; one whose ends are in the wrong order is as if it were not there. A
set is negated by an exclamation mark at its beginning. A closing bracket at the
beginning of a set belongs to it, and an opening bracket without a closing one
stands for itself.

These are the patterns of `fnmatch`, by which `cleanup_session_logs` globs.
-/
import Desinence.Text

set_option autoImplicit false

namespace Desinence

namespace Glob

/-- What a set lists: a character, or all from one to another. -/
inductive SetItem
  | one (c : Char)
  | range (first last : Char)
  deriving Repr, DecidableEq

/-- Whether an item lists a character. -/
def SetItem.lists (c : Char) : SetItem → Bool
  | .one d => c == d
  | .range first last => first ≤ c && c ≤ last

/-- A piece of a pattern. -/
inductive Piece
  | char (c : Char)
  | anyChar
  | anyRun
  | oneOf (negated : Bool) (items : List SetItem)
  deriving Repr, DecidableEq

/-- The items of a set. A hyphen makes a range of the characters on its two sides,
and stands for itself at the ends and behind a range. -/
def itemsOf : Text → List SetItem
  | a :: '-' :: b :: r => if a ≤ b then .range a b :: itemsOf r else itemsOf r
  | a :: r => .one a :: itemsOf r
  | [] => []

/-- The set of some items, negated or not. An exclamation mark that has come to the
beginning because the ranges in front of it hold nothing negates the set too; if
it was the end of a range, the hyphen and the other end are left of that. -/
def setOf : Bool → List SetItem → Piece
  | false, .one '!' :: items => .oneOf true items
  | false, .range '!' last :: items => .oneOf true (.one '-' :: .one last :: items)
  | negated, items => .oneOf negated items

/-- The inside of a set and what follows its closing bracket. The first character
is inside, whatever it is. -/
def insideOfSet : Text → Option (Text × Text)
  | [] => none
  | c :: r =>
    match r.dropWhile (· != ']') with
    | [] => none
    | _ :: rest => some (c :: r.takeWhile (· != ']'), rest)

/-- Reads a set behind its opening bracket. -/
def readSet (t : Text) : Option (Piece × Text) :=
  match t with
  | '!' :: r => (insideOfSet r).map fun (inside, rest) => (setOf true (itemsOf inside), rest)
  | r => (insideOfSet r).map fun (inside, rest) => (setOf false (itemsOf inside), rest)

/-- The pieces of a pattern behind its first `skip` characters, which belong to a
set that has been read. -/
def piecesFrom : Nat → Text → List Piece
  | _, [] => []
  | skip + 1, _ :: r => piecesFrom skip r
  | 0, c :: r =>
    if c = '*' then .anyRun :: piecesFrom 0 r
    else if c = '?' then .anyChar :: piecesFrom 0 r
    else if c = '[' then
      match readSet r with
      | some (p, rest) => p :: piecesFrom (r.length - rest.length) r
      | none => .char c :: piecesFrom 0 r
    else .char c :: piecesFrom 0 r

/-- **The pieces of a pattern.** -/
def pieces (pattern : Text) : List Piece :=
  piecesFrom 0 pattern

/-- What is left of a text after none, one, two, … of its characters. -/
def rests : Text → List Text
  | [] => [[]]
  | c :: r => (c :: r) :: rests r

/-- Whether a character is in a set. -/
def inSet (negated : Bool) (items : List SetItem) (c : Char) : Bool :=
  items.any (·.lists c) != negated

/-- **Whether a whole name fits a pattern.** -/
def fits : List Piece → Text → Bool
  | [], t => t.isEmpty
  | .anyRun :: ps, t => (rests t).any (fits ps)
  | .char d :: ps, c :: r => c == d && fits ps r
  | .anyChar :: ps, _ :: r => fits ps r
  | .oneOf negated items :: ps, c :: r => inSet negated items c && fits ps r
  | _ :: _, [] => false

/-- Whether a pattern has two stars side by side, which no pattern for a single
name may have. -/
def hasDoubleStar : Text → Bool
  | '*' :: '*' :: _ => true
  | _ :: r => hasDoubleStar r
  | [] => false

end Glob

end Desinence
