/-
Words in capitals and in small letters.

A word is brought into small letters before it is stemmed, so a word written in small
letters has the same stem. For a word in capitals that takes the way there and back: each
letter of words goes to its capital form, and that one to its small form again. Nearly all
come back. The letter U+00FF does so by way of a capital that is outside Latin-1; the sharp
s alone has no capital of its own, is written `SS`, and comes back as two letters.

So a word in capitals has the stem of the word that has `ss` for every sharp s. Over all
tables that is the stem of the word itself if and only if the word has no sharp s.
-/
import Desinence.Stemmer
import Desinence.Proofs.Word.Accents

set_option autoImplicit false

namespace Desinence

/-! ## Letters -/

/-- What holds of the letters and digits of words by their numbers in Latin-1 holds of
each of them. -/
theorem forall_isWordChar {P : Char → Prop}
    (h : ∀ n, n < 0x100 → isWordChar (Char.ofNat n) = true → P (Char.ofNat n)) {c : Char}
    (hc : isWordChar c = true) : P c := by
  have hlt : c.toNat < 0x100 := by
    rw [isWordChar_iff] at hc
    omega
  exact forall_of_toNat_lt (P := fun c => isWordChar c = true → P c) h hlt hc

/-- **Words in letters and digits of words** only, of either case. -/
def Text.IsWord (t : Text) : Prop :=
  ∀ c ∈ t, isWordChar c = true

-- By the members of the text, not by all characters there are.
instance (t : Text) : Decidable t.IsWord :=
  List.decidableBAll (fun c => isWordChar c = true) t

/-- A letter with a sharp s spelled out. -/
def spelledOutChar (c : Char) : Text :=
  if c = 'ß' then ['s', 's'] else [c]

/-- **The two cases of a letter of words**: its small form is again a letter of words, and
its capital form comes back as the letter does, a sharp s as two. -/
theorem cases_of_isWordChar {c : Char} (h : isWordChar c = true) :
    (∃ d, lowerChar c = [d] ∧ isWordChar d = true) ∧ upperChar c ≠ [] ∧
      Text.normalised (upperChar c) = Text.normalised (spelledOutChar c) := by
  have hone : ((lowerChar c).length = 1 ∧ (lowerChar c).IsWord) ∧ upperChar c ≠ [] ∧
      Text.normalised (upperChar c) = Text.normalised (spelledOutChar c) := by
    refine forall_isWordChar (P := fun c =>
      ((lowerChar c).length = 1 ∧ (lowerChar c).IsWord) ∧ upperChar c ≠ [] ∧
        Text.normalised (upperChar c) = Text.normalised (spelledOutChar c)) ?_ h
    decide +kernel
  obtain ⟨⟨hlength, hword⟩, hupper⟩ := hone
  obtain ⟨d, hd⟩ := List.length_eq_one_iff.1 hlength
  exact ⟨⟨d, hd, hword d (by rw [hd]; exact List.mem_singleton_self d)⟩, hupper⟩

namespace Text

/-! ## Words -/

/-- **The word with `ss` for every sharp s.** -/
def spelledOut (t : Text) : Text :=
  t.flatMap spelledOutChar

variable {w : Text}

theorem isWord_cons {c : Char} : IsWord (c :: w) ↔ isWordChar c = true ∧ w.IsWord :=
  List.forall_mem_cons

theorem spelledOut_cons (c : Char) (t : Text) :
    spelledOut (c :: t) = spelledOutChar c ++ spelledOut t :=
  List.flatMap_cons

/-- Each sharp s makes the word longer by one letter. -/
theorem length_spelledOut (t : Text) : t.spelledOut.length = t.length + t.count 'ß' := by
  induction t with
  | nil => rfl
  | cons c t ih =>
    rw [spelledOut_cons, List.length_append, ih, List.length_cons, List.count_cons, spelledOutChar]
    by_cases hc : c = 'ß'
    · simp [hc]
      omega
    · simp [hc]
      omega

theorem spelledOut_of_not_mem (h : 'ß' ∉ w) : w.spelledOut = w := by
  induction w with
  | nil => rfl
  | cons c t ih =>
    rw [List.mem_cons, not_or] at h
    rw [spelledOut_cons, spelledOutChar, if_neg (Ne.symm h.1), ih h.2]
    rfl

theorem IsWord.spelledOut (h : w.IsWord) : w.spelledOut.IsWord := by
  intro d hd
  obtain ⟨c, hc, hd⟩ := List.mem_flatMap.1 hd
  rw [spelledOutChar] at hd
  split at hd
  · have hs : isWordChar 's' = true := by decide
    have hd' : d = 's' := by simpa using hd
    rw [hd', hs]
  · rw [List.mem_singleton.1 hd]
    exact h c hc

/-- Of a word in its letters the normal form is just the small form. -/
theorem IsWord.normalised_cons {c : Char} (h : isWordChar c = true) (t : Text) :
    ∃ d, lowerChar c = [d] ∧ normalised (c :: t) = d :: normalised t := by
  obtain ⟨⟨d, hd, hword⟩, -⟩ := cases_of_isWordChar h
  refine ⟨d, hd, ?_⟩
  rw [Text.normalised_cons, hd, List.filter_cons_of_pos hword]
  rfl

/-- No letter of a word is dropped. -/
theorem IsWord.length_normalised (h : w.IsWord) : w.normalised.length = w.length := by
  induction w with
  | nil => rfl
  | cons c t ih =>
    obtain ⟨hc, ht⟩ := isWord_cons.1 h
    obtain ⟨d, -, hd⟩ := IsWord.normalised_cons hc t
    rw [hd, List.length_cons, List.length_cons, ih ht]

/-- **A word in small letters is its normal form.** -/
theorem IsWord.lower_eq (h : w.IsWord) : w.lower = w.normalised := by
  induction w with
  | nil => rfl
  | cons c t ih =>
    obtain ⟨hc, ht⟩ := isWord_cons.1 h
    obtain ⟨d, hlower, hd⟩ := IsWord.normalised_cons hc t
    rw [hd, ← ih ht, lower, List.flatMap_cons, hlower]
    rfl

/-- **A word in capitals comes back** with every sharp s spelled out. -/
theorem IsWord.normalised_upper (h : w.IsWord) : w.upper.normalised = w.spelledOut.normalised := by
  induction w with
  | nil => rfl
  | cons c t ih =>
    obtain ⟨hc, ht⟩ := isWord_cons.1 h
    obtain ⟨-, -, hupper⟩ := cases_of_isWordChar hc
    have hcons : upper (c :: t) = upperChar c ++ upper t := List.flatMap_cons
    rw [hcons, spelledOut_cons, normalised_append, normalised_append, hupper, ih ht]

/-- It comes back longer by a letter for every sharp s. -/
theorem IsWord.length_normalised_upper (h : w.IsWord) :
    w.upper.normalised.length = w.normalised.length + w.count 'ß' := by
  rw [h.normalised_upper, h.spelledOut.length_normalised, length_spelledOut, h.length_normalised]

theorem IsWord.upper_ne_nil (h : w.IsWord) (hne : w ≠ []) : w.upper ≠ [] := by
  obtain ⟨c, t, rfl⟩ := List.exists_cons_of_ne_nil hne
  obtain ⟨-, hupper, -⟩ := cases_of_isWordChar (isWord_cons.1 h).1
  exact List.append_ne_nil_of_left_ne_nil hupper _

end Text

namespace Stemmer

/-! ## Stems -/

variable {w : Text}

/-- Texts with one normal form have one stem, as long as neither is empty. -/
theorem stem_eq_of_normalised_eq {s : Stemmer} {u v : Text} (hu : u ≠ []) (hv : v ≠ [])
    (h : u.normalised = v.normalised) : s.stem u = s.stem v := by
  rw [stem_of_ne_nil hu, stem_of_ne_nil hv, h]

/-- Without stages a stem is as long as the normal form. -/
theorem length_stem_of_no_stages (removeAccents : Bool) (w : Text) :
    ((Stemmer.mk [] removeAccents).stem w).length = w.normalised.length := by
  by_cases hw : w = []
  · rw [hw]
    rfl
  · rw [stem_of_ne_nil hw, Table.run_nil, finish]
    split
    · exact Text.length_withoutAccents (Text.isSmall_normalised w)
    · rfl

theorem stem_lower (h : w.IsWord) (s : Stemmer) : s.stem w.lower = s.stem w := by
  by_cases hw : w = []
  · rw [hw]
    rfl
  · have hne : w.lower ≠ [] := by
      rw [h.lower_eq, ← List.length_pos_iff, h.length_normalised]
      exact List.length_pos_iff.2 hw
    refine stem_eq_of_normalised_eq hne hw ?_
    rw [h.lower_eq]
    exact Text.normalised_of_isSmall (Text.isSmall_normalised w)

theorem stem_upper (h : w.IsWord) (s : Stemmer) : s.stem w.upper = s.stem w.spelledOut := by
  by_cases hw : w = []
  · rw [hw]
    rfl
  · have hne : w.spelledOut ≠ [] := by
      rw [← List.length_pos_iff, Text.length_spelledOut]
      have hpos := List.length_pos_iff.2 hw
      omega
    exact stem_eq_of_normalised_eq (h.upper_ne_nil hw) hne h.normalised_upper

/-- **The case of a word and its stem.** Whatever the table and whether accents are removed,
a word in small letters has the stem of the word, and a word in capitals that of the word
with every sharp s spelled out. So case never makes a difference to the stem of a word
without a sharp s. To that of any other word it does over some table, and already where
there are no rules: the stem of the word in capitals is longer by a letter for each sharp
s. -/
theorem stem_of_cased {w : Text} (hw : w.IsWord) :
    (∀ s : Stemmer, s.stem w.lower = s.stem w ∧ s.stem w.upper = s.stem w.spelledOut) ∧
    ((∀ s : Stemmer, s.stem w.upper = s.stem w.lower ∧ s.stem w.lower = s.stem w) ↔ 'ß' ∉ w) ∧
    ∀ removeAccents : Bool, ((Stemmer.mk [] removeAccents).stem w.upper).length =
      ((Stemmer.mk [] removeAccents).stem w).length + w.count 'ß' := by
  have hlonger : ∀ removeAccents : Bool, ((Stemmer.mk [] removeAccents).stem w.upper).length =
      ((Stemmer.mk [] removeAccents).stem w).length + w.count 'ß' := by
    intro removeAccents
    rw [length_stem_of_no_stages, length_stem_of_no_stages, hw.length_normalised_upper]
  refine ⟨fun s => ⟨stem_lower hw s, stem_upper hw s⟩, ⟨fun hcase => ?_, fun hnot s => ?_⟩,
    hlonger⟩
  · obtain ⟨hupper, hlower⟩ := hcase ⟨[], false⟩
    have hlength := hlonger false
    rw [hupper, hlower] at hlength
    exact List.count_eq_zero.1 (by omega)
  · rw [stem_upper hw, stem_lower hw, Text.spelledOut_of_not_mem hnot]
    exact ⟨rfl, rfl⟩

/-- A word whose capitals are not all in Latin-1, and one that in capitals has another
stem. -/
theorem stem_of_cased_sharp :
    let s : Stemmer := ⟨[⟨"Plural".toList, 0, false, [], [⟨['s'], 2, [], []⟩]⟩], false⟩
    let inner : Text := "Paÿs1".toList
    let sharp : Text := "Maß".toList
    inner.IsWord ∧ 'ß' ∉ inner ∧ inner.upper = "PA\u0178S1".toList ∧
      s.stem inner.upper = s.stem inner ∧
      sharp.IsWord ∧ s.stem sharp = "maß".toList ∧ s.stem sharp.upper = "mas".toList := by
  intro s inner sharp
  have hinner : inner.IsWord := by decide
  have hnot : 'ß' ∉ inner := by decide
  have hsharp : sharp.IsWord := by decide
  have hspelled : s.stem sharp.spelledOut = "mas".toList := by decide +kernel
  obtain ⟨-, hcase, -⟩ := stem_of_cased hinner
  obtain ⟨hboth, -, -⟩ := stem_of_cased hsharp
  obtain ⟨hupper, hlower⟩ := hcase.2 hnot s
  exact ⟨hinner, hnot, by decide +kernel, hupper.trans hlower, hsharp, by decide +kernel,
    (hboth s).2.trans hspelled⟩

/-- **Case does make a difference**: without any rules the stem of a sharp s is a sharp s,
and in capitals it has two letters. -/
theorem not_stem_of_capitals :
    ¬∀ (s : Stemmer) (w : Text), w.IsWord →
      s.stem w.upper = s.stem w.lower ∧ s.stem w.lower = s.stem w := by
  intro h
  have hcase := (h ⟨[], false⟩ ['ß'] (by decide)).1
  revert hcase
  decide +kernel

end Stemmer

end Desinence
