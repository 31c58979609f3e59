/-
JSON strings, as they are written.

A character is written in one of three ways: by an escape of one letter, by the four digits
of its unit, or as it is. Each of them is one that the grammar has for that character, so
what is written of a text is a lexeme that spells it.
-/
import Desinence.Json.Writer
import Desinence.Proofs.Json.Content

set_option autoImplicit false

namespace Desinence

namespace Json

/-- The control characters by their digits. -/
theorem isUnit_hexDigits : ∀ m, m < 0x20 → IsUnit (hexDigits 4 m) m ∧
    Glyph.isHighHalf m = false ∧ Glyph.ofCode m = .char (Char.ofNat m) := by
  have hdigits : ∀ m, m < 0x20 → hexDigits 4 m = ['0', '0', hexDigit (m / 16), hexDigit (m % 16)] ∧
      unitOf? '0' '0' (hexDigit (m / 16)) (hexDigit (m % 16)) = some m ∧
      Glyph.isHighHalf m = false ∧ Glyph.ofCode m = .char (Char.ofNat m) := by
    decide +kernel
  intro m hm
  obtain ⟨hfour, hunit, hrest⟩ := hdigits m hm
  exact ⟨hfour ▸ unitOf?_eq_some_iff.1 hunit, hrest⟩

/-- **A written character** is content that spells it. -/
theorem content_escapeGlyph (c : Char) {g s : Glyphs} (h : Content g s) :
    Content (escapeGlyph (.char c) ++ g) (.char c :: s) := by
  -- All letters that have an escape but the slash, in the order of the writer.
  by_cases hletter : c ∈ ['"', '\\', '\n', '\r', '\t', '\x08', '\x0c']
  · simp only [List.mem_cons, List.not_mem_nil, or_false] at hletter
    obtain rfl | rfl | rfl | rfl | rfl | rfl | rfl := hletter <;>
      exact .letter (by simp [letterEscapes]) h
  simp only [List.mem_cons, List.not_mem_nil, or_false, not_or] at hletter
  obtain ⟨hquote, hslash, hnewline, hreturn, htab, hback, hfeed⟩ := hletter
  rw [escapeGlyph, if_neg hquote, if_neg hslash, if_neg hnewline, if_neg hreturn, if_neg htab,
    if_neg hback, if_neg hfeed]
  by_cases hcontrol : c.toNat < 0x20
  · obtain ⟨hunit, hhigh, hcode⟩ := isUnit_hexDigits c.toNat hcontrol
    have halone : ¬(Glyph.isHighHalf c.toNat = true ∧ LowHalfAhead g) := by
      rintro ⟨htrue, -⟩
      rw [hhigh] at htrue
      exact Bool.noConfusion htrue
    rw [Char.ofNat_toNat] at hcode
    rw [if_pos hcontrol, ← hcode]
    exact .unit hunit halone h
  · rw [if_neg hcontrol]
    exact .plain hquote hslash (Nat.le_of_not_lt hcontrol) h

/-- What is written between the quote marks of a text. -/
theorem content_written (t : Text) : Content (t.glyphs.flatMap escapeGlyph) t.glyphs := by
  induction t with
  | nil => exact .nil
  | cons c t ih => exact content_escapeGlyph c ih

/-- **A written text** is a lexeme. -/
theorem lexeme_writeString (t : Text) : Lexeme (writeString t.glyphs) (.string t.glyphs) :=
  .string (content_written t)

end Json

end Desinence
