/-
Hangul syllables and their letters.

A syllable is numbered by the places of its letters: the leading consonant counts most,
then the vowel, then the trailing consonant, whose place zero is none. Taking a syllable
apart reads these places off its number. Joining puts a vowel to a leading consonant, or a
trailing consonant to a syllable that has none; either way the number of the result is
that of the places together, so that it has the letters of both.
-/
import Desinence.Letter.NormalForm

set_option autoImplicit false

namespace Desinence

namespace Hangul

/-! ## Syllables by the places of their letters -/

/-- **Places of letters**: those of a leading consonant, a vowel and a trailing
consonant. -/
structure Places where
  lead : Nat
  vowel : Nat
  trail : Nat

namespace Places

/-- There are letters in these places. -/
structure Fit (p : Places) : Prop where
  lead : p.lead < 19
  vowel : p.vowel < 21
  trail : p.trail < 28

/-- The number of the syllable. -/
def syllable (p : Places) : Nat :=
  syllableBase + ((p.lead * vowelCount + p.vowel) * trailCount + p.trail)

/-- The numbers of its letters. -/
def letters (p : Places) : List Nat :=
  if p.trail = 0 then [leadBase + p.lead, vowelBase + p.vowel]
  else [leadBase + p.lead, vowelBase + p.vowel, trailBase + p.trail]

variable {p : Places}

theorem Fit.syllable_bounds (h : p.Fit) :
    syllableBase ≤ p.syllable ∧ p.syllable < syllableBase + syllableCount := by
  obtain ⟨hlead, hvowel, htrail⟩ := h
  simp only [syllable, syllableCount, leadCount, vowelCount, trailCount]
  omega

/-- Where the syllables stand, in numbers. -/
theorem Fit.syllable_range (h : p.Fit) : 0xAC00 ≤ p.syllable ∧ p.syllable < 0xD7A4 := by
  have hbounds := h.syllable_bounds
  rw [syllableBase, syllableCount, leadCount, vowelCount, trailCount] at hbounds
  exact hbounds

/-- **A syllable is taken apart into its letters.** -/
theorem Fit.parts?_syllable (h : p.Fit) : parts? p.syllable = some p.letters := by
  have hbounds := h.syllable_bounds
  obtain ⟨hlead, hvowel, htrail⟩ := h
  have hindex : p.syllable - syllableBase = (p.lead * 21 + p.vowel) * 28 + p.trail :=
    Nat.add_sub_cancel_left ..
  have hl : ((p.lead * 21 + p.vowel) * 28 + p.trail) / (21 * 28) = p.lead := by omega
  have hv : ((p.lead * 21 + p.vowel) * 28 + p.trail) % (21 * 28) / 28 = p.vowel := by omega
  have ht : ((p.lead * 21 + p.vowel) * 28 + p.trail) % 28 = p.trail := by omega
  simp only [parts?, vowelCount, trailCount, hindex, hl, hv, ht, hbounds, decide_true,
    Bool.and_self, if_true, letters]

end Places

/-- Every number of a syllable is that of some places. -/
theorem exists_places {n : Nat} (hbase : syllableBase ≤ n)
    (hcount : n < syllableBase + syllableCount) : ∃ p : Places, p.Fit ∧ n = p.syllable := by
  rw [syllableCount, leadCount, vowelCount, trailCount] at hcount
  let i := n - syllableBase
  let p : Places := ⟨i / (21 * 28), i % (21 * 28) / 28, i % 28⟩
  have hfit : p.Fit := by
    constructor
    · change i / (21 * 28) < 19
      omega
    · change i % (21 * 28) / 28 < 21
      omega
    · change i % 28 < 28
      omega
  refine ⟨p, hfit, ?_⟩
  change n = syllableBase + ((i / (21 * 28) * 21 + i % (21 * 28) / 28) * 28 + i % 28)
  omega

/-- **What is taken apart is a syllable.** -/
theorem exists_places_of_parts? {n : Nat} {codes : List Nat} (h : parts? n = some codes) :
    ∃ p : Places, p.Fit ∧ n = p.syllable ∧ codes = p.letters := by
  obtain ⟨hbounds, -⟩ := Option.ite_none_right_eq_some.1 h
  rw [Bool.and_eq_true, decide_eq_true_iff, decide_eq_true_iff] at hbounds
  obtain ⟨p, hfit, rfl⟩ := exists_places hbounds.1 hbounds.2
  rw [hfit.parts?_syllable, Option.some.injEq] at h
  exact ⟨p, hfit, rfl, h.symm⟩

/-! ## Letters -/

/-- The numbers of the block of letters. -/
def IsLetter (n : Nat) : Prop :=
  0x1100 ≤ n ∧ n < 0x1200

theorem Places.Fit.isLetter {p : Places} (h : p.Fit) : ∀ n ∈ p.letters, IsLetter n := by
  obtain ⟨hlead, hvowel, htrail⟩ := h
  intro n hn
  -- With or without a trailing consonant, each letter is counted from its base.
  have hbase : n = 0x1100 + p.lead ∨ n = 0x1161 + p.vowel ∨ n = 0x11A7 + p.trail := by
    rw [Places.letters] at hn
    split at hn
    · rw [List.mem_cons, List.mem_singleton] at hn
      exact hn.imp_right .inl
    · rw [List.mem_cons, List.mem_cons, List.mem_singleton] at hn
      exact hn
  rw [IsLetter]
  omega

/-- The letters of a number: those of a syllable, or itself. -/
def lettersOf (n : Nat) : List Nat :=
  (parts? n).getD [n]

theorem lettersOf_of_lt {n : Nat} (h : n < syllableBase) : lettersOf n = [n] := by
  have hbase : ¬syllableBase ≤ n := Nat.not_le.2 h
  simp only [lettersOf, parts?, hbase, decide_false, Bool.false_and, Bool.false_eq_true, if_false,
    Option.getD_none]

/-! ## Joining -/

section Join

variable {a b : Nat}

/-- A vowel behind a leading consonant. -/
theorem exists_places_vowel (hlead : leadBase ≤ a) (hleads : a < leadBase + leadCount)
    (hvowel : vowelBase ≤ b) (hvowels : b < vowelBase + vowelCount) :
    ∃ p : Places, p.Fit ∧
      syllableBase + ((a - leadBase) * vowelCount + (b - vowelBase)) * trailCount = p.syllable ∧
        p.letters = lettersOf a ++ lettersOf b := by
  have ha : leadBase + (a - leadBase) = a := Nat.add_sub_cancel' hlead
  have hb : vowelBase + (b - vowelBase) = b := Nat.add_sub_cancel' hvowel
  rw [leadBase, leadCount] at hleads
  rw [vowelBase, vowelCount] at hvowels
  let p : Places := ⟨a - leadBase, b - vowelBase, 0⟩
  have hfit : p.Fit := by
    constructor
    · change a - 0x1100 < 19
      omega
    · change b - 0x1161 < 21
      omega
    · change 0 < 28
      omega
  refine ⟨p, hfit, ?_, ?_⟩
  · rw [Places.syllable, Nat.add_zero]
  · rw [lettersOf_of_lt (by rw [syllableBase]; omega),
      lettersOf_of_lt (by rw [syllableBase]; omega), Places.letters, if_pos rfl, ha, hb]
    rfl

/-- A trailing consonant behind a syllable that has none. -/
theorem exists_places_trail (hbase : syllableBase ≤ a) (hcount : a < syllableBase + syllableCount)
    (hopen : (a - syllableBase) % trailCount = 0) (htrail : trailBase < b)
    (htrails : b < trailBase + trailCount) :
    ∃ p : Places, p.Fit ∧ a + (b - trailBase) = p.syllable ∧
      p.letters = lettersOf a ++ lettersOf b := by
  obtain ⟨q, hq, rfl⟩ := exists_places hbase hcount
  have hqtrail : q.trail = 0 := by
    have hlt := hq.trail
    rw [Places.syllable, Nat.add_sub_cancel_left, trailCount] at hopen
    omega
  have hb : trailBase + (b - trailBase) = b := Nat.add_sub_cancel' (Nat.le_of_lt htrail)
  rw [trailBase] at htrail
  rw [trailBase, trailCount] at htrails
  let p : Places := ⟨q.lead, q.vowel, b - trailBase⟩
  have hptrail : p.trail ≠ 0 := by
    change b - 0x11A7 ≠ 0
    omega
  have hfit : p.Fit := by
    refine ⟨hq.lead, hq.vowel, ?_⟩
    change b - 0x11A7 < 28
    omega
  refine ⟨p, hfit, ?_, ?_⟩
  · rw [Places.syllable, Places.syllable, hqtrail, Nat.add_zero, Nat.add_assoc]
  · rw [lettersOf, hq.parts?_syllable, Option.getD_some,
      lettersOf_of_lt (by rw [syllableBase]; omega), Places.letters, if_neg hptrail,
      Places.letters, if_pos hqtrail, hb]
    rfl

/-- **A joined syllable has the letters of both**, one behind the other. -/
theorem letters_of_join? {n : Nat} (h : join? a b = some n) :
    ∃ p : Places, p.Fit ∧ n = p.syllable ∧ p.letters = lettersOf a ++ lettersOf b := by
  rw [join?] at h
  split at h
  next hletters =>
    simp only [Bool.and_eq_true, decide_eq_true_eq, and_assoc] at hletters
    obtain ⟨hlead, hleads, hvowel, hvowels⟩ := hletters
    obtain rfl := Option.some.inj h
    exact exists_places_vowel hlead hleads hvowel hvowels
  next =>
    obtain ⟨hopen, hn⟩ := Option.ite_none_right_eq_some.1 h
    simp only [Bool.and_eq_true, decide_eq_true_eq, beq_iff_eq, and_assoc] at hopen
    obtain ⟨hbase, hcount, hplace, htrail, htrails⟩ := hopen
    obtain rfl := Option.some.inj hn
    exact exists_places_trail hbase hcount hplace htrail htrails

end Join

end Hangul

end Desinence
