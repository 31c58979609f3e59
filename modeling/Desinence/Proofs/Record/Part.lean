/-
Parts of a record with the blanks around them.

The readers skip blanks before a part and on both sides of a comma. Each fact
below turns such a reading into an equation that shows the blanks: `w` in front
of the comma, `v` behind it. Two readings of the same text then skip the same
blanks, because every part begins with a character that is none (`Firm`).
-/
import Desinence.Record.Part
import Desinence.Proofs.Text.Blank
import Desinence.Proofs.Text.Decimal

set_option autoImplicit false

namespace Desinence

/-- A digit is no blank. -/
theorem isBlank_eq_false_of_isDigit {c : Char} (h : isDigit c = true) : isBlank c = false := by
  rw [isDigit_iff] at h
  simp only [isBlank, Bool.or_eq_false_iff, Bool.and_eq_false_iff, decide_eq_false_iff_not,
    beq_eq_false_iff_ne, ne_eq]
  omega

namespace Record

/-! ## Behind blanks -/

/-- A reader is firm if nothing that it accepts begins with a blank. -/
def Firm {α : Type} (part : Text → Option α) : Prop :=
  ∀ t x, part t = some x → t.Flush

theorem firm_readChar {c : Char} (hc : isBlank c = false) : Firm (readChar c) := by
  intro t r h
  rw [readChar_eq_some_iff] at h
  rw [h, Text.flush_cons]
  exact hc

theorem firm_readBetween {opening closing : Char} (h : isBlank opening = false) :
    Firm (readBetween opening closing) := by
  rintro t ⟨body, r⟩ hread
  rw [readBetween_eq_some_iff] at hread
  rw [hread.1, List.cons_append, Text.flush_cons]
  exact h

theorem firm_readQuoted : Firm readQuoted :=
  firm_readBetween (by decide)

theorem firm_readNumeral : Firm readNumeral := by
  rintro t ⟨digits, r⟩ h
  rw [readNumeral_eq_some_iff] at h
  obtain ⟨rfl, hne, hd, -⟩ := h
  cases digits with
  | nil => exact absurd rfl hne
  | cons d ds =>
    rw [List.cons_append, Text.flush_cons]
    exact isBlank_eq_false_of_isDigit (hd d List.mem_cons_self)

/-- **A firm part behind blanks.** -/
theorem Firm.skipBlanks_eq_some_iff {α : Type} {part : Text → Option α} (hp : Firm part)
    {t : Text} {x : α} :
    part t.skipBlanks = some x ↔ ∃ w u, Blanks w ∧ t = w ++ u ∧ part u = some x := by
  constructor
  · intro h
    obtain ⟨w, hw, ht⟩ := Text.exists_eq_append_skipBlanks t
    exact ⟨w, t.skipBlanks, hw, ht, h⟩
  · rintro ⟨w, u, hw, rfl, h⟩
    rw [Text.skipBlanks_append hw (hp u x h)]
    exact h

/-! ## Commas -/

theorem readComma_append {w v u : Text} (hw : Blanks w) (hv : Blanks v) (hu : u.Flush) :
    readComma (w ++ ',' :: v ++ u) = some u := by
  have hc : Text.Flush (',' :: v ++ u) := by
    rw [List.cons_append, Text.flush_cons]
    decide
  rw [readComma, List.append_assoc, Text.skipBlanks_append hw hc]
  simp only [List.cons_append, readChar, if_true, Option.map_some]
  rw [Text.skipBlanks_append hv hu]

/-- Where something else comes before the comma, none is read. -/
theorem readComma_eq_none {w r : Text} {c : Char} (hw : Blanks w) (hb : isBlank c = false)
    (hc : c ≠ ',') : readComma (w ++ c :: r) = none := by
  have hf : Text.Flush (c :: r) := Text.flush_cons.2 hb
  rw [readComma, Text.skipBlanks_append hw hf]
  simp [readChar, hc]

/-- **A comma with blanks on its two sides.** -/
theorem readComma_eq_some_iff {t u : Text} :
    readComma t = some u ↔
      u.Flush ∧ ∃ w v, Blanks w ∧ Blanks v ∧ t = w ++ ',' :: v ++ u := by
  constructor
  · intro h
    simp only [readComma, Option.map_eq_some_iff, readChar_eq_some_iff] at h
    obtain ⟨r, hr, rfl⟩ := h
    obtain ⟨w, hw, ht⟩ := Text.exists_eq_append_skipBlanks t
    obtain ⟨v, hv, hrv⟩ := Text.exists_eq_append_skipBlanks r
    refine ⟨Text.flush_skipBlanks r, w, v, hw, hv, ?_⟩
    rw [List.append_assoc, List.cons_append, ← hrv, ← hr]
    exact ht
  · rintro ⟨hu, w, v, hw, hv, rfl⟩
    exact readComma_append hw hv hu

/-! ## Optional fields -/

/-- **An optional field**: nothing at all, or a comma and then a body between
its two marks, in which the closing mark does not occur. -/
inductive OptionalField (opening closing : Char) : Option Text → Text → Prop
  | missing : OptionalField opening closing none []
  | present {w v body : Text} : Blanks w → Blanks v → closing ∉ body →
      OptionalField opening closing (some body)
        (w ++ ',' :: v ++ opening :: body ++ [closing])

/-- The body of an optional field, empty where there is none, stands in the field
and does not hold the closing mark. -/
theorem OptionalField.getD_body {opening closing : Char} {body : Option Text} {s : Text}
    (h : OptionalField opening closing body s) :
    closing ∉ body.getD [] ∧ ∀ c ∈ body.getD [], c ∈ s := by
  cases h with
  | missing => simp
  | present _ _ hb =>
    refine ⟨hb, fun c hc => ?_⟩
    rw [Option.getD_some] at hc
    simp [hc]

theorem readOptional_of_some {part : Text → Option (Text × Text)} {t body r : Text}
    (h : (readComma t).bind part = some (body, r)) : readOptional part t = (some body, r) := by
  rw [readOptional, h]

theorem readOptional_of_none {part : Text → Option (Text × Text)} {t : Text}
    (h : (readComma t).bind part = none) : readOptional part t = (none, t) := by
  rw [readOptional, h]

section Optional

variable {opening closing : Char}

/-- What an optional field leaves is the text behind it. -/
theorem optionalField_of_readOptional {t u : Text} {body : Option Text}
    (h : readOptional (readBetween opening closing) t = (body, u)) :
    ∃ s, OptionalField opening closing body s ∧ t = s ++ u := by
  cases hr : (readComma t).bind (readBetween opening closing) with
  | none =>
    rw [readOptional_of_none hr, Prod.mk.injEq] at h
    obtain ⟨rfl, rfl⟩ := h
    exact ⟨[], .missing, rfl⟩
  | some x =>
    obtain ⟨b, r⟩ := x
    rw [readOptional_of_some hr, Prod.mk.injEq] at h
    obtain ⟨rfl, rfl⟩ := h
    obtain ⟨q, hq, hb⟩ := Option.bind_eq_some_iff.1 hr
    obtain ⟨-, w, v, hw, hv, ht⟩ := readComma_eq_some_iff.1 hq
    obtain ⟨rfl, hn⟩ := readBetween_eq_some_iff.1 hb
    exact ⟨_, .present hw hv hn, by simp [ht]⟩

/-- A field that is there is read. -/
theorem readOptional_present (ho : isBlank opening = false) {w v body : Text} (hw : Blanks w)
    (hv : Blanks v) (hb : closing ∉ body) (u : Text) :
    readOptional (readBetween opening closing)
      (w ++ ',' :: v ++ opening :: body ++ [closing] ++ u) = (some body, u) := by
  have ht : w ++ ',' :: v ++ opening :: body ++ [closing] ++ u
      = w ++ ',' :: v ++ (opening :: body ++ closing :: u) := by
    simp
  have hf : Text.Flush (opening :: body ++ closing :: u) := by
    rw [List.cons_append, Text.flush_cons]
    exact ho
  apply readOptional_of_some
  rw [ht, readComma_append hw hv hf, Option.bind_some, readBetween_eq_some_iff]
  exact ⟨rfl, hb⟩

/-- A field that is not there is not read, whether a field with another opening
mark follows or no comma at all. -/
theorem readOptional_missing {w v r : Text} {c : Char} (hw : Blanks w) (hv : Blanks v)
    (hb : isBlank c = false) (hc : c ≠ opening) :
    readOptional (readBetween opening closing) (w ++ ',' :: v ++ c :: r) =
      (none, w ++ ',' :: v ++ c :: r) := by
  apply readOptional_of_none
  rw [readComma_append hw hv (Text.flush_cons.2 hb), Option.bind_some]
  cases h : readBetween opening closing (c :: r) with
  | none => rfl
  | some x =>
    -- What is read begins with the opening mark.
    have hx := (readBetween_eq_some_iff.1 h).1
    rw [List.cons_append, List.cons.injEq] at hx
    exact absurd hx.1 hc

end Optional

theorem readOptional_no_comma {part : Text → Option (Text × Text)} {w r : Text} {c : Char}
    (hw : Blanks w) (hb : isBlank c = false) (hc : c ≠ ',') :
    readOptional part (w ++ c :: r) = (none, w ++ c :: r) := by
  apply readOptional_of_none
  rw [readComma_eq_none hw hb hc, Option.bind_none]

end Record

end Desinence
