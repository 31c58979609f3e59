/-
Normal forms of words and the small letters they are made of.

The case mapping is a table of runs. What the theory of words needs of it are
two facts about each run: it begins nowhere near a small letter of words, and
its images are all beyond Latin-1 or all among those small letters. So a small
letter is its own small form, no capital letter is the small form of anything,
and a normal form is made of small letters and digits alone, which normalising
leaves as they are.

A capital sigma has two small forms, and the one it takes depends on what stands
around it. `lowerInContext` is the case mapping with that rule. Both forms are
foreign to words, so the rule does not show in a normal form.
-/
import Desinence.Word
import Desinence.Proofs.Text.Blank

set_option autoImplicit false

namespace Desinence

/-- **Small letters and digits of words**: `a` to `z`, the digits, and the small
letters of Latin-1, that is U+00DF to U+00FF without the sign for divided by. -/
def isSmallChar (c : Char) : Bool :=
  let n := c.toNat
  (0x61 ≤ n && n ≤ 0x7A) || (0x30 ≤ n && n ≤ 0x39) || (0xDF ≤ n && n ≤ 0xF6) ||
    (0xF8 ≤ n && n ≤ 0xFF)

/-! ## Tables and characters by number -/

/-- What is looked up is in the table, under its key. -/
theorem mem_of_lookup_eq_some {α β : Type} [BEq α] [LawfulBEq α] {table : List (α × β)} {k : α}
    {v : β} (h : table.lookup k = some v) : (k, v) ∈ table := by
  obtain ⟨front, back, htable, -⟩ := List.lookup_eq_some_iff.1 h
  rw [htable]
  exact List.mem_append_cons_self

/-- The number of the character with a given number, unless there is no such
character; then it is zero. -/
theorem toNat_charOfNat (n : Nat) : (Char.ofNat n).toNat = n ∨ (Char.ofNat n).toNat = 0 := by
  rw [Char.ofNat]
  by_cases h : n.isValidChar
  · left
    rw [dif_pos h]
    rfl
  · right
    rw [dif_neg h]
    rfl

/-- What holds of the characters by their numbers below a bound holds of each of them. -/
theorem forall_of_toNat_lt {P : Char → Prop} {b : Nat} (h : ∀ n, n < b → P (Char.ofNat n))
    {c : Char} (hc : c.toNat < b) : P c := by
  have hp := h c.toNat hc
  rwa [Char.ofNat_toNat] at hp

theorem isSmallChar_iff {c : Char} :
    isSmallChar c = true ↔
      (0x61 ≤ c.toNat ∧ c.toNat ≤ 0x7A) ∨ (0x30 ≤ c.toNat ∧ c.toNat ≤ 0x39) ∨
        (0xDF ≤ c.toNat ∧ c.toNat ≤ 0xF6) ∨ (0xF8 ≤ c.toNat ∧ c.toNat ≤ 0xFF) := by
  simp only [isSmallChar, Bool.or_eq_true, Bool.and_eq_true, decide_eq_true_eq, or_assoc]

theorem isWordChar_iff {c : Char} :
    isWordChar c = true ↔
      (0x61 ≤ c.toNat ∧ c.toNat ≤ 0x7A) ∨ (0x41 ≤ c.toNat ∧ c.toNat ≤ 0x5A) ∨
        (0xC0 ≤ c.toNat ∧ c.toNat ≤ 0xD6) ∨ (0xD8 ≤ c.toNat ∧ c.toNat ≤ 0xF6) ∨
        (0xF8 ≤ c.toNat ∧ c.toNat ≤ 0xFF) ∨ (0x30 ≤ c.toNat ∧ c.toNat ≤ 0x39) := by
  simp only [isWordChar, Bool.or_eq_true, Bool.and_eq_true, decide_eq_true_eq, or_assoc]

/-- The small letters and digits are letters and digits of words. -/
theorem isWordChar_of_isSmallChar {c : Char} (h : isSmallChar c = true) : isWordChar c = true := by
  rw [isSmallChar_iff] at h
  rw [isWordChar_iff]
  omega

/-- None of them is a blank. -/
theorem isBlank_of_isSmallChar {c : Char} (h : isSmallChar c = true) : isBlank c = false := by
  rw [isSmallChar_iff] at h
  rw [Bool.eq_false_iff]
  intro hblank
  simp only [isBlank, Bool.or_eq_true, Bool.and_eq_true, decide_eq_true_eq, beq_iff_eq] at hblank
  omega

/-! ## Runs of the case mapping -/

namespace CaseRun

/-- The run covers no small letter or digit of words. -/
def AvoidsSmall (r : CaseRun) : Prop :=
  (0x39 < r.first ∧ r.last < 0x61) ∨ (0x7A < r.first ∧ r.last < 0xDF) ∨ 0xFF < r.first

/-- The images of the run are beyond Latin-1, or small letters of words that
follow one another. -/
def LandsSmall (r : CaseRun) : Prop :=
  0xFF < r.image ∨ (0x61 ≤ r.image ∧ r.map r.last ≤ 0x7A) ∨
    (0xDF ≤ r.image ∧ r.map r.last ≤ 0xF6) ∨ (0xF8 ≤ r.image ∧ r.map r.last ≤ 0xFF)

instance (r : CaseRun) : Decidable r.AvoidsSmall :=
  inferInstanceAs (Decidable (_ ∨ _))

instance (r : CaseRun) : Decidable r.LandsSmall :=
  inferInstanceAs (Decidable (_ ∨ _))

/-- **Every run of small forms** begins away from the small letters of words, and
lands among them or beyond Latin-1. -/
theorem avoids_and_lands_of_mem : ∀ r ∈ lowerRuns, r.AvoidsSmall ∧ r.LandsSmall := by
  decide +kernel

theorem bounds_of_covers {r : CaseRun} {n : Nat} (h : r.covers n = true) :
    r.first ≤ n ∧ n ≤ r.last := by
  simp only [covers, Bool.and_eq_true, decide_eq_true_eq] at h
  exact h.1

/-- A covered number is mapped between the images of the two ends. -/
theorem map_bounds {r : CaseRun} {n : Nat} (h : r.covers n = true) :
    r.image ≤ r.map n ∧ r.map n ≤ r.map r.last := by
  have hn := bounds_of_covers h
  rw [map, map]
  omega

/-- The capital letters of words stand in three runs. -/
theorem capitals_subset :
    ∀ r ∈ [CaseRun.mk 0x41 0x5A 1 0x61, ⟨0xC0, 0xD6, 1, 0xE0⟩, ⟨0xD8, 0xDE, 1, 0xF8⟩],
      r ∈ lowerRuns := by
  decide +kernel

/-- A number that no run covers is not that of a capital letter of words. -/
theorem not_capital_of_find?_eq_none {n : Nat}
    (h : lowerRuns.find? (fun r => r.covers n) = none) :
    ¬(0x41 ≤ n ∧ n ≤ 0x5A) ∧ ¬(0xC0 ≤ n ∧ n ≤ 0xD6) ∧ ¬(0xD8 ≤ n ∧ n ≤ 0xDE) := by
  rw [List.find?_eq_none] at h
  have hruns := fun r hr => h r (capitals_subset r hr)
  simpa [covers, Nat.mod_one] using hruns

end CaseRun

/-! ## Small forms of characters -/

/-- A small form of one character is a small letter, if it is a letter or digit of
words at all. -/
theorem isSmallChar_ofNat_mapRuns {c : Char}
    (h : isWordChar (Char.ofNat (mapRuns lowerRuns c.toNat)) = true) :
    isSmallChar (Char.ofNat (mapRuns lowerRuns c.toNat)) = true := by
  rw [isWordChar_iff] at h
  rw [isSmallChar_iff]
  -- The number of the image is the mapped one, or zero, which is no letter.
  have hnum := toNat_charOfNat (mapRuns lowerRuns c.toNat)
  rw [mapRuns] at h hnum ⊢
  cases hf : lowerRuns.find? (fun r => r.covers c.toNat) with
  | some r =>
    simp only [hf] at h hnum ⊢
    have hlands := (CaseRun.avoids_and_lands_of_mem r (List.mem_of_find?_eq_some hf)).2
    have hcovers := List.find?_some hf
    have hbounds := CaseRun.map_bounds hcovers
    rw [CaseRun.LandsSmall] at hlands
    omega
  | none =>
    -- The character is its own small form, and a capital letter would have been covered.
    simp only [hf] at h hnum ⊢
    have hcapital := CaseRun.not_capital_of_find?_eq_none hf
    omega

/-- The one small form that is a sequence is that of the capital i with a dot. -/
theorem isSmallChar_of_mem_lowerSequences : ∀ row ∈ lowerSequences, ∀ n ∈ row.2,
    isWordChar (Char.ofNat n) = true → isSmallChar (Char.ofNat n) = true := by
  decide +kernel

/-- **No small form brings a capital letter into a word.** -/
theorem isSmallChar_of_mem_lowerChar {c d : Char} (hd : d ∈ lowerChar c)
    (h : isWordChar d = true) : isSmallChar d = true := by
  rw [lowerChar, mapCase] at hd
  cases hs : lowerSequences.lookup c.toNat with
  | some codes =>
    simp only [hs, List.mem_map] at hd
    obtain ⟨n, hn, rfl⟩ := hd
    exact isSmallChar_of_mem_lowerSequences _ (mem_of_lookup_eq_some hs) n hn h
  | none =>
    simp only [hs, List.mem_singleton] at hd
    subst hd
    exact isSmallChar_ofNat_mapRuns h

/-- **A small letter or digit of words is its own small form.** -/
theorem lowerChar_of_isSmallChar {c : Char} (h : isSmallChar c = true) : lowerChar c = [c] := by
  rw [isSmallChar_iff] at h
  have hsequence : lowerSequences.lookup c.toNat = none := by
    rw [List.lookup_eq_none_iff]
    simp only [lowerSequences, List.mem_singleton, forall_eq, bne_iff_ne, ne_eq]
    omega
  have hrun : lowerRuns.find? (fun r => r.covers c.toNat) = none := by
    rw [List.find?_eq_none]
    intro r hr hcovers
    have havoids := (CaseRun.avoids_and_lands_of_mem r hr).1
    have hbounds := CaseRun.bounds_of_covers hcovers
    rw [CaseRun.AvoidsSmall] at havoids
    omega
  simp only [lowerChar, mapCase, hsequence, mapRuns, hrun, Char.ofNat_toNat]

namespace Text

/-! ## Normal forms -/

/-- **Texts of small letters and digits of words.** -/
def IsSmall (t : Text) : Prop :=
  ∀ c ∈ t, isSmallChar c = true

-- By the members of the text, not by all characters there are.
instance (t : Text) : Decidable t.IsSmall :=
  List.decidableBAll (fun c => isSmallChar c = true) t

/-- A small text lacks every other character. -/
theorem IsSmall.not_mem {t : Text} (h : t.IsSmall) {c : Char} (hc : isSmallChar c = false) :
    c ∉ t := by
  intro hmem
  rw [h c hmem] at hc
  exact Bool.noConfusion hc

theorem isSmall_append {s t : Text} : IsSmall (s ++ t) ↔ s.IsSmall ∧ t.IsSmall :=
  List.forall_mem_append

/-- The normal form of a text by its first character. -/
theorem normalised_cons (c : Char) (t : Text) :
    normalised (c :: t) = (lowerChar c).filter isWordChar ++ normalised t := by
  simp [normalised, lower]

/-- **A normal form is a small text.** -/
theorem isSmall_normalised (t : Text) : t.normalised.IsSmall := by
  intro d hd
  rw [normalised, List.mem_filter, lower, List.mem_flatMap] at hd
  obtain ⟨⟨c, -, hc⟩, hword⟩ := hd
  exact isSmallChar_of_mem_lowerChar hc hword

/-- **Small texts are normal.** -/
theorem normalised_of_isSmall {t : Text} (h : t.IsSmall) : t.normalised = t := by
  induction t with
  | nil => rfl
  | cons c r ih =>
    have hc : isSmallChar c = true := h c List.mem_cons_self
    have hr : IsSmall r := fun d hd => h d (List.mem_cons_of_mem c hd)
    rw [normalised_cons, lowerChar_of_isSmallChar hc, ih hr,
      List.filter_cons_of_pos (isWordChar_of_isSmallChar hc)]
    rfl

/-- A small text has no blanks at its ends. -/
theorem strip_of_isSmall {t : Text} (h : t.IsSmall) : t.strip = t := by
  apply strip_eq_self
  · intro c hc
    exact isBlank_of_isSmallChar (h c (List.mem_of_mem_head? hc))
  · intro c hc
    exact isBlank_of_isSmallChar (h c (List.mem_reverse.1 (List.mem_of_mem_head? hc)))

/-! ## Sigma by its place -/

section Context

variable (cased ignorable : Char → Bool)

/-- Whether the first character that is not ignorable is a cased one. -/
def meetsCased (t : Text) : Bool :=
  (t.dropWhile ignorable).head?.any cased

/-- **The end of a word**, as the rule for sigma has it: ignorable characters
aside, there is a cased one in front and none behind. The text in front is given
from its end. -/
def isWordEnd (before after : Text) : Bool :=
  meetsCased cased ignorable before && !meetsCased cased ignorable after

/-- The small form of a text that stands behind another one, which is given from
its end. -/
def lowerBehind (before : Text) : Text → Text
  | [] => []
  | c :: r =>
    (if c = 'Σ' then [if isWordEnd cased ignorable before r then 'ς' else 'σ'] else lowerChar c) ++
      lowerBehind (c :: before) r

/-- **The text in small letters, sigma by its place**: `ς` at the end of a word
and `σ` elsewhere. Which characters are cased and which are ignorable is left
open. -/
def lowerInContext (t : Text) : Text :=
  lowerBehind cased ignorable [] t

example : lowerInContext (fun c => c != ' ') (fun c => c == '.') "ΣΑΣ.Α ΣΑΣ.".toList =
    "σασ.α σας.".toList := by decide +kernel

/-- Either small sigma is dropped from a word, as the capital one is. -/
theorem filter_lowerBehind (before t : Text) :
    (lowerBehind cased ignorable before t).filter isWordChar = normalised t := by
  induction t generalizing before with
  | nil => rfl
  | cons c r ih =>
    rw [lowerBehind, List.filter_append, ih, normalised_cons]
    -- The two mappings differ at a capital sigma only.
    by_cases hc : c = 'Σ'
    · have hsigma : (lowerChar 'Σ').filter isWordChar = [] := by decide +kernel
      have hend : isWordChar 'ς' = false := by decide
      have hinside : isWordChar 'σ' = false := by decide
      rw [if_pos hc, hc, hsigma]
      cases isWordEnd cased ignorable before r
      · simp [hinside]
      · simp [hend]
    · rw [if_neg hc]

/-- **The normal form of a word in full**: small letters with sigma by its place,
what is no letter or digit dropped, no blanks at the ends. -/
theorem strip_filter_lowerInContext (t : Text) :
    strip ((lowerInContext cased ignorable t).filter isWordChar) = normalised t := by
  rw [lowerInContext, filter_lowerBehind, strip_of_isSmall (isSmall_normalised t)]

end Context

end Text

end Desinence
