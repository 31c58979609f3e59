/-
The encoding of a JSON text.

JSON begins with two characters of ASCII, if it has that many at all. So its first
bytes tell how it is encoded: zeros among them show how many bytes a unit has, and
which of them comes first. Without zeros the text is UTF-8.

It is `json.loads` on bytes: `detect_encoding`, then the codec, which lets halves
of surrogate pairs pass.
-/
import Desinence.Json.Glyph
import Desinence.Text.Utf8

set_option autoImplicit false

namespace Desinence

namespace Json

/-- Which byte of a unit comes first: the one that counts most, or the one that
counts least. -/
inductive ByteOrder
  | big
  | little
  deriving Repr, DecidableEq

/-- The number that the bytes of a unit make. -/
def ByteOrder.unit (bytes : Bytes) : ByteOrder → Nat
  | .big => bytes.foldl (fun n b => n * 256 + b.toNat) 0
  | .little => bytes.foldr (fun b n => b.toNat + 256 * n) 0

/-- How a text is encoded: by units of one, two or four bytes. -/
inductive Encoding
  | utf8
  | utf16 (order : ByteOrder)
  | utf32 (order : ByteOrder)
  deriving Repr, DecidableEq

/-- **The encoding that the first bytes show.** -/
def Encoding.ofBytes : Bytes → Encoding
  | [a, b] => if a = 0 then .utf16 .big else if b = 0 then .utf16 .little else .utf8
  | a :: b :: c :: d :: _ =>
    if a = 0 then if b = 0 then .utf32 .big else .utf16 .big
    else if b = 0 then if c = 0 ∧ d = 0 then .utf32 .little else .utf16 .little
    else .utf8
  | _ => .utf8

/-- The units of two bytes each; a byte too many belongs to none. -/
def units16 (order : ByteOrder) : Bytes → Option (List Nat)
  | [] => some []
  | [_] => none
  | a :: b :: r => (units16 order r).map (order.unit [a, b] :: ·)

/-- The glyphs of 16-bit units: two halves side by side are one character. -/
def ofUnits16 : List Nat → Glyphs
  | [] => []
  | [n] => [.ofCode n]
  | m :: n :: r =>
    if Glyph.isHighHalf m && Glyph.isLowHalf n then .ofPair m n :: ofUnits16 r
    else .ofCode m :: ofUnits16 (n :: r)

/-- The glyphs of units of four bytes each; none of them may be beyond the last
code point. -/
def glyphs32 (order : ByteOrder) : Bytes → Option Glyphs
  | [] => some []
  | a :: b :: c :: d :: r =>
    let n := order.unit [a, b, c, d]
    if n < 0x110000 then (glyphs32 order r).map (.ofCode n :: ·) else none
  | _ => none

/-- The text without a byte-order mark in front. -/
def withoutMark : Text → Text
  | c :: r => if c = '\uFEFF' then r else c :: r
  | [] => []

/-- **The glyphs of a text that was sent in UTF-8**, but whose bytes may show another
encoding. The byte-order mark is skipped only in UTF-8. -/
def glyphsOf? (body : Text) : Option Glyphs :=
  let bytes := Utf8.encode body
  match Encoding.ofBytes bytes with
  | .utf8 => some (withoutMark body).glyphs
  | .utf16 order => (units16 order bytes).map ofUnits16
  | .utf32 order => glyphs32 order bytes

/-! ## Small facts -/

/-- Bytes that do not begin with a zero or have one second are UTF-8. -/
theorem Encoding.ofBytes_of_ne_zero {a b : UInt8} {r : Bytes} (ha : a ≠ 0) (hb : b ≠ 0) :
    Encoding.ofBytes (a :: b :: r) = .utf8 := by
  unfold Encoding.ofBytes
  split <;> simp_all

end Json

end Desinence
