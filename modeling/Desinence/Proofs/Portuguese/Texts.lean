/-
The texts of the Portuguese table.

Suffixes, replacements, exceptions and conditions are words in small letters; only the
names of the stages have capitals. Nothing in such a word is in the way of writing it
between quote marks, so the table is well-formed, and what is written is read back as the
table it is.
-/
import Desinence.Proofs.Layout
import Desinence.Proofs.Stemmer.Alphabet

set_option autoImplicit false

namespace Desinence

/-- **Small letters of words**: the small letters and digits without the digits. -/
def isSmallLetter (c : Char) : Bool :=
  isSmallChar c && !c.isDigit

/-- **Words in small letters.** -/
def Text.IsLower (t : Text) : Prop :=
  ∀ c ∈ t, isSmallLetter c = true

-- By the members of the text, not by all characters there are.
instance (t : Text) : Decidable t.IsLower :=
  List.decidableBAll (fun c => isSmallLetter c = true) t

theorem Text.IsLower.isSmall {t : Text} (h : t.IsLower) : t.IsSmall := by
  intro c hc
  have hletter := h c hc
  rw [isSmallLetter, Bool.and_eq_true] at hletter
  exact hletter.1

/-! ## Small words between quote marks -/

/-- No small letter ends a line. -/
theorem isLineEnd_of_isSmallChar {c : Char} (h : isSmallChar c = true) : isLineEnd c = false := by
  rw [isSmallChar_iff] at h
  rw [Bool.eq_false_iff]
  intro hend
  simp only [isLineEnd, Bool.or_eq_true, Bool.and_eq_true, decide_eq_true_eq, beq_iff_eq] at hend
  omega

namespace Text

variable {t : Text}

theorem IsSmall.plain (h : t.IsSmall) : t.Plain :=
  ⟨h.not_mem (by decide), fun c hc => isLineEnd_of_isSmallChar (h c hc)⟩

/-- **A small word is an item** of a quoted list. -/
theorem IsSmall.isItem (h : t.IsSmall) (hne : t ≠ []) : t.IsItem :=
  ⟨h.plain, hne, strip_of_isSmall h⟩

end Text

/-! ## The table -/

namespace Portuguese

/-- What the stages are like, their rules apart. -/
theorem frame_of_mem_table : ∀ stage ∈ table,
    ('"' ∉ stage.name ∧ stage.name.OneLine) ∧ stage.name ≠ [] ∧ stage.minWord < 10 ∧
      (∀ c ∈ stage.conditions, c ≠ [] ∧ c.IsSmall) ∧ stage.rules ≠ [] := by
  decide +kernel

/-- **What the texts of a rule are like.** Its suffix is a word in small letters without a
`w`, and one of the conditions of the stage, if there are any, ends it; its exceptions are
words without a `w` too, and none of them ends the suffix. -/
theorem texts_of_mem_table : ∀ stage ∈ table, ∀ r ∈ stage.rules,
    (r.suffix.IsLower ∧ 'w' ∉ r.suffix) ∧
      (stage.conditions = [] ∨ ∃ c ∈ stage.conditions, c <:+ r.suffix) ∧
      ∀ e ∈ r.exceptions, (e.IsSmall ∧ e ≠ []) ∧ 'w' ∉ e ∧ ¬e <:+ r.suffix := by
  decide +kernel

theorem minStem_lt_of_mem_rules : ∀ r ∈ table.rules, r.minStem < 10 := by
  decide +kernel

/-- A number of one digit can be written. -/
theorem lt_pow_numeralLimit {n : Nat} (h : n < 10) : n < 10 ^ numeralLimit :=
  Nat.lt_of_lt_of_le h (Nat.le_self_pow (Nat.pos_iff_ne_zero.1 numeralLimit_pos) 10)

/-- **The table is well-formed.** -/
theorem wellFormed_table : table.WellFormed := by
  intro stage hstage
  obtain ⟨hname, hne, hminWord, hconditions, hrules⟩ := frame_of_mem_table stage hstage
  refine ⟨hname, hne, lt_pow_numeralLimit hminWord, fun c hc => ?_, fun r hr => ?_, hrules⟩
  · obtain ⟨hc, hsmall⟩ := hconditions c hc
    exact hsmall.isItem hc
  · obtain ⟨⟨hsuffix, -⟩, -, hexceptions⟩ := texts_of_mem_table stage hstage r hr
    have hmem : r ∈ table.rules := List.mem_flatMap.2 ⟨stage, hstage, hr⟩
    refine ⟨hsuffix.isSmall.plain, lt_pow_numeralLimit (minStem_lt_of_mem_rules r hmem),
      (isSmall_replacement r hmem).plain, fun e he => ?_⟩
    obtain ⟨⟨hsmall, hne⟩, -⟩ := hexceptions e he
    exact ⟨hsmall.isItem hne, hsmall.not_mem (by decide)⟩

end Portuguese

end Desinence
