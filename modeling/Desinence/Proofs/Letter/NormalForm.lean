/-
Starters through the normal forms.

Putting marks into order moves no starter past another, so what is left of form
D without its marks is, character by character, what is left of each
decomposition without its marks. On the way back to form C two characters join
only if the second is a mark or a Hangul letter. Below the first mark, U+0300,
there is neither, and a text that has no composites either is its own form C.
-/
import Mathlib.Data.List.Basic
import Desinence.Letter.NormalForm

set_option autoImplicit false

namespace Desinence

/-! ## The order of marks -/

/-- A mark that moves behind other marks stays behind the same starters. -/
theorem filter_isStarter_insertMark (c : Char) (t : Text) :
    (insertMark c t).filter isStarter = (c :: t).filter isStarter := by
  induction t with
  | nil => rfl
  | cons d r ih =>
    rw [insertMark]
    by_cases h : combiningClass d ≠ 0 ∧ combiningClass d < combiningClass c
    · -- What moves past a mark has the higher class, so it is a mark as well.
      obtain ⟨hd, hlt⟩ := h
      have hc : combiningClass c ≠ 0 := by omega
      rw [if_pos ⟨hd, hlt⟩, List.filter_cons, ih]
      simp [isStarter, hd, hc]
    · rw [if_neg h]

/-- **Ordering the marks does not touch the starters.** -/
theorem filter_isStarter_orderMarks (t : Text) :
    (orderMarks t).filter isStarter = t.filter isStarter := by
  induction t with
  | nil => rfl
  | cons c r ih =>
    rw [orderMarks, List.foldr_cons, filter_isStarter_insertMark, List.filter_cons,
      List.filter_cons, ← orderMarks, ih]

/-- The starters of form D, one character at a time. -/
theorem filter_isStarter_decomposed (t : Text) :
    (decomposed t).filter isStarter = t.flatMap fun c => (decomposeChar c).filter isStarter := by
  rw [decomposed, filter_isStarter_orderMarks, List.filter_flatMap]

/-- Starters are in order. -/
theorem orderMarks_of_isStarter {t : Text} (h : ∀ c ∈ t, isStarter c = true) :
    orderMarks t = t := by
  induction t with
  | nil => rfl
  | cons c r ih =>
    have hrest : orderMarks r = r := ih fun d hd => h d (List.mem_cons_of_mem c hd)
    rw [orderMarks, List.foldr_cons, ← orderMarks, hrest]
    cases r with
    | nil => rfl
    | cons d r =>
      have hd : combiningClass d = 0 := by
        simpa [isStarter] using h d (List.mem_cons_of_mem c List.mem_cons_self)
      rw [insertMark, if_neg (fun hlt => hlt.1 hd)]

/-! ## Below the first mark -/

theorem isStarter_of_lt {c : Char} (h : c.toNat < 0x300) : isStarter c = true := by
  simp [isStarter, combiningClass, h]

/-- The second part of a composite is a mark or a letter of a script that has its
composites beyond U+0300. -/
theorem le_of_mem_compositionGroups : ∀ group ∈ compositionGroups, 0x300 ≤ group.1 := by
  decide +kernel

/-- The vowels and trailing consonants of Hangul are beyond U+0300. -/
theorem Hangul.join?_eq_none (a : Nat) {b : Nat} (h : b < 0x300) : join? a b = none := by
  have hvowel : ¬vowelBase ≤ b := by
    rw [vowelBase]
    omega
  have htrail : ¬trailBase < b := by
    rw [trailBase]
    omega
  simp [join?, hvowel, htrail]

/-- **Nothing combines with a character below the first mark.** -/
theorem composePair?_eq_none {a b : Char} (h : b.toNat < 0x300) : composePair? a b = none := by
  have hgroup : compositionGroups.lookup b.toNat = none := by
    rw [List.lookup_eq_none_iff]
    intro group hmem
    have hle := le_of_mem_compositionGroups group hmem
    rw [bne_iff_ne]
    omega
  rw [composePair?, Hangul.join?_eq_none a.toNat h, hgroup]
  rfl

theorem composeFrom_of_lt (c : Char) {t : Text} (h : ∀ d ∈ t, d.toNat < 0x300) :
    composeFrom c [] t = c :: t := by
  induction t generalizing c with
  | nil => rfl
  | cons d r ih =>
    have hd : d.toNat < 0x300 := h d List.mem_cons_self
    have hrest := ih d fun e he => h e (List.mem_cons_of_mem d he)
    simp [composeFrom, composePair?_eq_none hd, isStarter_of_lt hd, hrest]

/-- Joining leaves a text below the first mark as it is. -/
theorem composeText_of_lt {t : Text} (h : ∀ c ∈ t, c.toNat < 0x300) : composeText t = t := by
  cases t with
  | nil => rfl
  | cons c r =>
    rw [composeText, if_pos (isStarter_of_lt (h c List.mem_cons_self))]
    exact composeFrom_of_lt c fun d hd => h d (List.mem_cons_of_mem c hd)

/-- **A text below the first mark without composites is its own form C.** -/
theorem composed_of_lt {t : Text} (h : ∀ c ∈ t, c.toNat < 0x300)
    (hwhole : ∀ c ∈ t, decomposeChar c = [c]) : composed t = t := by
  have hdecomposed : decomposed t = t := by
    rw [decomposed, List.flatMap_congr hwhole, ← List.map_eq_flatMap, List.map_id',
      orderMarks_of_isStarter fun c hc => isStarter_of_lt (h c hc)]
  rw [composed, hdecomposed, composeText_of_lt h]

end Desinence
