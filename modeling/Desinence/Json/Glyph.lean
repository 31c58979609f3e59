/-
Glyphs, of which JSON strings are made.

JSON writes a character beyond the first 65536 as a pair of 16-bit units, the two
halves of a surrogate pair, and nothing keeps a half from standing by itself. So
a string is a list of glyphs: characters, and halves that have no partner. It
denotes a text if all of its glyphs are characters.

Strings of `json.loads` are of this kind, since they may hold halves.
-/
import Desinence.Text

set_option autoImplicit false

namespace Desinence

/-- **A glyph**: a character, or half of a surrogate pair by itself. -/
inductive Glyph
  | char (c : Char)
  | half (unit : Nat)
  deriving Repr, DecidableEq

/-- A string of JSON. -/
abbrev Glyphs := List Glyph

namespace Glyph

/-- The first half of a surrogate pair. -/
def isHighHalf (n : Nat) : Bool :=
  0xD800 ≤ n && n < 0xDC00

/-- The second half of a surrogate pair. -/
def isLowHalf (n : Nat) : Bool :=
  0xDC00 ≤ n && n < 0xE000

/-- The glyph of a code point that stands by itself. -/
def ofCode (n : Nat) : Glyph :=
  if isHighHalf n || isLowHalf n then .half n else .char (Char.ofNat n)

/-- The character of a surrogate pair. -/
def ofPair (high low : Nat) : Glyph :=
  .char (Char.ofNat (0x10000 + (high - 0xD800) * 0x400 + (low - 0xDC00)))

/-- Whether a glyph is half of a pair. -/
def isHalf : Glyph → Bool
  | .char _ => false
  | .half _ => true

end Glyph

/-- The glyphs of a text are its characters. -/
def Text.glyphs (t : Text) : Glyphs :=
  t.map .char

namespace Glyphs

/-- **The text of a string**, if it has no halves. -/
def text? : Glyphs → Option Text
  | [] => some []
  | .char c :: r => (text? r).map (c :: ·)
  | .half _ :: _ => none

/-- A text is the text of its glyphs. -/
theorem text?_glyphs (t : Text) : text? t.glyphs = some t := by
  induction t with
  | nil => rfl
  | cons c r ih => exact (congrArg (Option.map (c :: ·)) ih).trans rfl

/-- A string that has a text is that text's. -/
theorem eq_glyphs_of_text? {g : Glyphs} {t : Text} (h : text? g = some t) : g = t.glyphs := by
  induction g generalizing t with
  | nil =>
    obtain rfl := Option.some.inj h
    rfl
  | cons x r ih =>
    cases x with
    | half n => exact absurd h (by simp [text?])
    | char c =>
      obtain ⟨u, hu, rfl⟩ := Option.map_eq_some_iff.1 h
      rw [ih hu]
      rfl

end Glyphs

end Desinence
