/-
The tokens of JSON.

`tokens` cuts a text into tokens, up to the first place where there is none. Two
liberties beyond the standard are taken: `NaN`, `Infinity` and `-Infinity` are
numbers, and a string may hold half of a surrogate pair. Two halves are joined if
both are written as escapes, one right behind the other.

The scanner is that of `json.loads`.
-/
import Desinence.Json.Glyph
import Desinence.Number.Binary64
import Desinence.Text.Decimal
import Desinence.Text.Hexadecimal

set_option autoImplicit false

namespace Desinence

namespace Json

/-- **A token.** `broken` stands where no token begins. -/
inductive Token
  | openArray
  | closeArray
  | openObject
  | closeObject
  | comma
  | colon
  | null
  | bool (value : Bool)
  | integer (negative : Bool) (digits : Text)
  | number (value : Binary64)
  | string (glyphs : Glyphs)
  | broken
  deriving Repr, DecidableEq

/-- The white space of JSON. -/
def isSpace (g : Glyph) : Bool :=
  g == .char ' ' || g == .char '\t' || g == .char '\n' || g == .char '\r'

/-! ## Strings -/

/-- The code unit of four hexadecimal digits. -/
def unitOf? (a b c d : Char) : Option Nat := do
  return ((← hexValue? a) * 16 + (← hexValue? b)) * 256 + (← hexValue? c) * 16 + (← hexValue? d)

/-- The character of a one-letter escape. -/
def escapeOf? (c : Char) : Option Char :=
  if c = '"' ∨ c = '\\' ∨ c = '/' then some c
  else if c = 'b' then some '\x08'
  else if c = 'f' then some '\x0c'
  else if c = 'n' then some '\n'
  else if c = 'r' then some '\r'
  else if c = 't' then some '\t'
  else none

/-- A string with an escaped unit in front. The unit joins the half of the escape
that is `next`. -/
def prependUnit (unit : Nat) (next : Glyphs) (glyphs : Glyphs) : Glyphs :=
  match next, glyphs with
  | .char '\\' :: _, .half low :: more =>
    if Glyph.isHighHalf unit && Glyph.isLowHalf low then .ofPair unit low :: more
    else .ofCode unit :: glyphs
  | _, _ => .ofCode unit :: glyphs

/-- **A string** behind its opening quote mark, and its length with the closing
one. -/
def readString : Glyphs → Option (Glyphs × Nat)
  | [] => none
  | .char '"' :: _ => some ([], 1)
  | .char '\\' :: .char 'u' :: .char a :: .char b :: .char c :: .char d :: r => do
    let unit ← unitOf? a b c d
    let (glyphs, length) ← readString r
    return (prependUnit unit r glyphs, length + 6)
  | .char '\\' :: .char c :: r => do
    let e ← escapeOf? c
    let (glyphs, length) ← readString r
    return (.char e :: glyphs, length + 2)
  | .char '\\' :: _ => none
  | .char c :: r =>
    if c.toNat < 0x20 then none else (readString r).map fun p => (.char c :: p.1, p.2 + 1)
  | .half n :: r => (readString r).map fun p => (.half n :: p.1, p.2 + 1)

/-! ## Numbers -/

/-- The characters in front with which numbers are written. -/
def numeralRun : Glyphs → Text
  | .char c :: r =>
    if isDigit c || c == '-' || c == '+' || c == '.' || c == 'e' || c == 'E' then
      c :: numeralRun r
    else []
  | _ => []

/-- The digits in front of a text. -/
def digitsOf (t : Text) : Text :=
  t.takeWhile isDigit

/-- The digits of an integer in front of a text: a zero, or a run of digits that
begins with another. -/
def integerDigits : Text → Text
  | '0' :: _ => ['0']
  | t => digitsOf t

/-- The digits of the fraction in front of a text, if there is one. -/
def fractionDigits : Text → Text
  | '.' :: r => digitsOf r
  | _ => []

/-- The sign and the digits of the exponent in front of a text, if there is one. -/
def exponentDigits : Text → Text × Text
  | e :: r =>
    if e = 'e' ∨ e = 'E' then
      let sign := r.take (if r.head? == some '+' || r.head? == some '-' then 1 else 0)
      (sign, digitsOf (r.drop sign.length))
    else ([], [])
  | [] => ([], [])

/-- The value of an exponent. -/
def exponentValue (sign digits : Text) : Int :=
  if sign = ['-'] then -(Text.decimalValue digits : Int) else Text.decimalValue digits

/-- **The number in front of a text** and its length. It is an integer if it has
neither a fraction nor an exponent. -/
def readNumber (t : Text) : Option (Token × Nat) :=
  let sign := t.take (if t.head? == some '-' then 1 else 0)
  let whole := integerDigits (t.drop sign.length)
  let behindWhole := t.drop (sign.length + whole.length)
  let fraction := fractionDigits behindWhole
  let fractionLength := if fraction.isEmpty then 0 else fraction.length + 1
  let (exponentSign, exponent) := exponentDigits (behindWhole.drop fractionLength)
  let exponentLength :=
    if exponent.isEmpty then 0 else exponentSign.length + exponent.length + 1
  if whole.isEmpty then none
  else if fraction.isEmpty && exponent.isEmpty then
    some (.integer (!sign.isEmpty) whole, sign.length + whole.length)
  else
    some (.number (.ofDecimal (!sign.isEmpty) (Text.decimalValue (whole ++ fraction))
        (exponentValue exponentSign exponent - fraction.length)),
      sign.length + whole.length + fractionLength + exponentLength)

/-! ## All tokens -/

/-- The words of JSON and what they mean. -/
def words : List (Text × Token) :=
  [("null".toList, .null), ("true".toList, .bool true), ("false".toList, .bool false),
   ("NaN".toList, .number .nan), ("Infinity".toList, .number (.infinite false)),
   ("-Infinity".toList, .number (.infinite true))]

/-- The word or number in front of a text and its length. -/
def readPlain (g : Glyphs) : Option (Token × Nat) :=
  match words.find? (fun w => w.1.glyphs.isPrefixOf g) with
  | some w => some (w.2, w.1.length)
  | none => readNumber (numeralRun g)

/-- The punctuation of JSON. -/
def punctuation? : Glyph → Option Token
  | .char '[' => some .openArray
  | .char ']' => some .closeArray
  | .char '{' => some .openObject
  | .char '}' => some .closeObject
  | .char ',' => some .comma
  | .char ':' => some .colon
  | _ => none

/-- One token in front of a text that begins with no white space, and its length. -/
def readToken (g : Glyph) (r : Glyphs) : Token × Nat :=
  match punctuation? g with
  | some token => (token, 1)
  | none =>
    if g = .char '"' then
      match readString r with
      | some (glyphs, length) => (.string glyphs, length + 1)
      | none => (.broken, r.length + 1)
    else (readPlain (g :: r)).getD (.broken, r.length + 1)

/-- The tokens of a text behind its first `skip` glyphs, which belong to a token
that has been read. -/
def tokensFrom : Nat → Glyphs → List Token
  | _, [] => []
  | skip + 1, _ :: r => tokensFrom skip r
  | 0, g :: r =>
    if isSpace g then tokensFrom 0 r
    else
      let (token, length) := readToken g r
      token :: tokensFrom (length - 1) r

/-- **The tokens of a text.** Behind a `broken` one there are no more. -/
def tokens (g : Glyphs) : List Token :=
  tokensFrom 0 g

end Json

end Desinence
