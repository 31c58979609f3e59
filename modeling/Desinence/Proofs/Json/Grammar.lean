/-
A grammar of JSON.

The grammar says which texts spell which value, and not a word of how they are read. It
has two layers. A lexeme is a mark, a word, a numeral or a string, and spells one token;
blanks may stand in front of every lexeme and behind the last (`Lexes`). A derivation
takes tokens together to a value (`Derives`). A text spells the value that is derived
from its tokens (`Spells`).

Three things are not as in the standard. `NaN`, `Infinity` and `-Infinity` are words for
numbers. A string may hold half of a surrogate pair, by itself or by an escape, and only
two halves that are both escaped make a pair. And there are two limits: no more than 960
arrays and objects may be open at one time, and no integer may have more digits than a
numeral of a table file.
-/
import Desinence.Json.Token
import Desinence.Json.Value
import Desinence.Proofs.Text.Decimal

set_option autoImplicit false

namespace Desinence

namespace Json

/-! ## Blanks -/

/-- **White space**, in any amount. -/
def Spaces (g : Glyphs) : Prop :=
  ∀ x ∈ g, x ∈ Text.glyphs [' ', '\t', '\n', '\r']

/-! ## Strings -/

/-- A hexadecimal digit and what it counts. -/
def IsHexDigit (c : Char) (n : Nat) : Prop :=
  "0123456789abcdef".toList[n]? = some c ∨ "0123456789ABCDEF".toList[n]? = some c

/-- **A unit** by its four hexadecimal digits. -/
inductive IsUnit : Text → Nat → Prop
  | digits {a b c d : Char} {x y z w : Nat} : IsHexDigit a x → IsHexDigit b y →
      IsHexDigit c z → IsHexDigit d w →
      IsUnit [a, b, c, d] (((x * 16 + y) * 16 + z) * 16 + w)

/-- The escape of a unit, by its digits. -/
def unitEscape (digits : Text) : Glyphs :=
  Text.glyphs ('\\' :: 'u' :: digits)

/-- The escapes of one letter, and what they stand for. -/
def letterEscapes : List (Char × Char) :=
  [('"', '"'), ('\\', '\\'), ('/', '/'), ('b', '\x08'), ('f', '\x0c'), ('n', '\n'), ('r', '\r'),
   ('t', '\t')]

/-- A text that begins with the escape of a second half. -/
def LowHalfAhead (g : Glyphs) : Prop :=
  ∃ digits n r, IsUnit digits n ∧ Glyph.isLowHalf n = true ∧ g = unitEscape digits ++ r

/-- **What stands between two quote marks**, and the string that it spells. -/
inductive Content : Glyphs → Glyphs → Prop
  | nil : Content [] []
  | plain {c : Char} {g s : Glyphs} : c ≠ '"' → c ≠ '\\' → 0x20 ≤ c.toNat → Content g s →
      Content (.char c :: g) (.char c :: s)
  | half {n : Nat} {g s : Glyphs} : Content g s → Content (.half n :: g) (.half n :: s)
  | letter {e c : Char} {g s : Glyphs} : (e, c) ∈ letterEscapes → Content g s →
      Content (.char '\\' :: .char e :: g) (.char c :: s)
  | unit {digits : Text} {n : Nat} {g s : Glyphs} : IsUnit digits n →
      ¬(Glyph.isHighHalf n = true ∧ LowHalfAhead g) → Content g s →
      Content (unitEscape digits ++ g) (.ofCode n :: s)
  | pair {high low : Text} {m n : Nat} {g s : Glyphs} : IsUnit high m →
      Glyph.isHighHalf m = true → IsUnit low n → Glyph.isLowHalf n = true → Content g s →
      Content (unitEscape high ++ (unitEscape low ++ g)) (.ofPair m n :: s)

/-! ## Numerals -/

/-- A minus sign or none. -/
inductive Sign : Text → Bool → Prop
  | plus : Sign [] false
  | minus : Sign ['-'] true

/-- The digits of a whole number: a zero alone, or digits of which the first is none. -/
def IsWhole (t : Text) : Prop :=
  t = ['0'] ∨ t.IsNumeral ∧ t.head? ≠ some '0'

/-- A fraction and its digits; there may be none. -/
inductive Fraction : Text → Text → Prop
  | none : Fraction [] []
  | digits {t : Text} : t.IsNumeral → Fraction ('.' :: t) t

/-- An exponent and its value; there may be none. -/
inductive Exponent : Text → Int → Prop
  | none : Exponent [] 0
  | plain {e : Char} {t : Text} : e = 'e' ∨ e = 'E' → t.IsNumeral →
      Exponent (e :: t) t.decimalValue
  | plus {e : Char} {t : Text} : e = 'e' ∨ e = 'E' → t.IsNumeral →
      Exponent (e :: '+' :: t) t.decimalValue
  | minus {e : Char} {t : Text} : e = 'e' ∨ e = 'E' → t.IsNumeral →
      Exponent (e :: '-' :: t) (-t.decimalValue)

/-- **A numeral.** It is an integer if it has neither a fraction nor an exponent. -/
inductive Numeral : Text → Token → Prop
  | integer {sign whole : Text} {negative : Bool} : Sign sign negative → IsWhole whole →
      Numeral (sign ++ whole) (.integer negative whole)
  | number {sign whole f fs x : Text} {negative : Bool} {e : Int} : Sign sign negative →
      IsWhole whole → Fraction f fs → Exponent x e → f ++ x ≠ [] →
      Numeral (sign ++ (whole ++ (f ++ x)))
        (.number (.ofDecimal negative (Text.decimalValue (whole ++ fs)) (e - fs.length)))

/-! ## Lexemes -/

/-- The marks of JSON. -/
def marks : List (Char × Token) :=
  [('[', .openArray), (']', .closeArray), ('{', .openObject), ('}', .closeObject), (',', .comma),
   (':', .colon)]

/-- The words of JSON. -/
def vocabulary : List (Text × Token) :=
  [("null".toList, .null), ("true".toList, .bool true), ("false".toList, .bool false),
   ("NaN".toList, .number .nan), ("Infinity".toList, .number (.infinite false)),
   ("-Infinity".toList, .number (.infinite true))]

/-- **A lexeme** and its token. -/
inductive Lexeme : Glyphs → Token → Prop
  | mark {c : Char} {token : Token} : (c, token) ∈ marks → Lexeme [.char c] token
  | word {t : Text} {token : Token} : (t, token) ∈ vocabulary → Lexeme t.glyphs token
  | numeral {t : Text} {token : Token} : Numeral t token → Lexeme t.glyphs token
  | string {g s : Glyphs} : Content g s →
      Lexeme (.char '"' :: (g ++ [.char '"'])) (.string s)

/-- **A text of lexemes**, and their tokens. -/
inductive Lexes : Glyphs → List Token → Prop
  | nil {w : Glyphs} : Spaces w → Lexes w []
  | cons {w l g : Glyphs} {token : Token} {ts : List Token} : Spaces w → Lexeme l token →
      Lexes g ts → Lexes (w ++ (l ++ g)) (token :: ts)

/-! ## Values -/

/-- The object of some members, in the order in which they are given. Of several with one
key the last gives the value and the first the place. -/
def objectWith (members : Fields) : JsonValue :=
  .object (members.foldl (fun fields m => Fields.put m.1 m.2 fields) [])

/-- **The values that tokens spell** inside as many open arrays and objects. The items of
an array and the members of an object are given with the tokens of each. -/
inductive Derives : Nat → List Token → JsonValue → Prop
  | null {depth : Nat} : Derives depth [.null] .null
  | bool {depth : Nat} {b : Bool} : Derives depth [.bool b] (.bool b)
  | string {depth : Nat} {s : Glyphs} : Derives depth [.string s] (.string s)
  | number {depth : Nat} {x : Binary64} : Derives depth [.number x] (.number x)
  | integer {depth : Nat} {negative : Bool} {digits : Text} : digits.length ≤ numeralLimit →
      Derives depth [.integer negative digits]
        (.integer (if negative then -(digits.decimalValue : Int) else digits.decimalValue))
  | array {depth : Nat} {items : List (List Token × JsonValue)} : depth < 960 →
      (∀ item ∈ items, Derives (depth + 1) item.1 item.2) →
      Derives depth
        (.openArray :: ([Token.comma].intercalate (items.map fun item => item.1) ++ [.closeArray]))
        (.array (items.map fun item => item.2))
  | object {depth : Nat} {members : List (Glyphs × List Token × JsonValue)} : depth < 960 →
      (∀ m ∈ members, Derives (depth + 1) m.2.1 m.2.2) →
      Derives depth
        (.openObject :: ([Token.comma].intercalate
          (members.map fun m => .string m.1 :: .colon :: m.2.1) ++ [.closeObject]))
        (objectWith (members.map fun m => (m.1, m.2.2)))

/-- **A text that spells a value.** -/
def Spells (g : Glyphs) (v : JsonValue) : Prop :=
  ∃ ts, Lexes g ts ∧ Derives 0 ts v

end Json

end Desinence
