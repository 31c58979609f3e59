/-
What the normal forms are made of.

Form D is made of the parts of the characters of a text, in some order, and form
C of those and of composites. So a solid character, one that is no part of any
other and no composite, is in the form of a text only if it is in the text. The
space is solid: the parts of composites and the composites themselves are
letters, signs and marks, and all of them are beyond it.
-/
import Desinence.Proofs.Word.Lower

set_option autoImplicit false

namespace Desinence

/-! ## Form D -/

theorem perm_insertMark (c : Char) (t : Text) : (insertMark c t).Perm (c :: t) := by
  induction t with
  | nil => exact .refl _
  | cons d r ih =>
    rw [insertMark]
    by_cases h : combiningClass d ≠ 0 ∧ combiningClass d < combiningClass c
    · rw [if_pos h]
      exact (ih.cons d).trans (.swap c d r)
    · rw [if_neg h]

theorem perm_orderMarks (t : Text) : (orderMarks t).Perm t := by
  induction t with
  | nil => exact .refl _
  | cons c r ih =>
    rw [orderMarks, List.foldr_cons, ← orderMarks]
    exact (perm_insertMark c _).trans (ih.cons c)

/-- **Form D is made of the parts of the characters.** -/
theorem mem_decomposed {c : Char} {t : Text} :
    c ∈ decomposed t ↔ ∃ d ∈ t, c ∈ decomposeChar d := by
  rw [decomposed, (perm_orderMarks _).mem_iff, List.mem_flatMap]

/-! ## Form C -/

section Joined

variable {P : Char → Prop} {t : Text}

/-- What holds of composites survives the joining of a starter with what follows it. The
induction is on what follows, for any starter and whatever did not combine with it. -/
theorem forall_mem_composeFrom (hjoin : ∀ a b c, composePair? a b = some c → P c)
    (ht : ∀ d ∈ t, P d) {starter : Char} (hstarter : P starter) {passed : Text}
    (hpassed : ∀ d ∈ passed, P d) : ∀ c ∈ composeFrom starter passed t, P c := by
  induction t generalizing starter passed with
  | nil => exact List.forall_mem_cons.2 ⟨hstarter, hpassed⟩
  | cons d r ih =>
    obtain ⟨hd, hr⟩ := List.forall_mem_cons.1 ht
    rw [composeFrom]
    split
    next composite hpair =>
      exact ih hr (hjoin starter d composite (Option.ite_none_left_eq_some.1 hpair).2) hpassed
    next =>
      split
      · have hrest := ih hr hd fun e he => absurd he List.not_mem_nil
        exact List.forall_mem_append.2 ⟨List.forall_mem_cons.2 ⟨hstarter, hpassed⟩, hrest⟩
      · exact ih hr hstarter (List.forall_mem_append.2 ⟨hpassed, List.forall_mem_singleton.2 hd⟩)

/-- **What holds of the characters of a text and of composites** holds of the characters of
the joined text. -/
theorem forall_mem_composeText (hjoin : ∀ a b c, composePair? a b = some c → P c)
    (ht : ∀ d ∈ t, P d) : ∀ c ∈ composeText t, P c := by
  induction t with
  | nil => exact ht
  | cons d r ih =>
    obtain ⟨hd, hr⟩ := List.forall_mem_cons.1 ht
    rw [composeText]
    split
    · exact forall_mem_composeFrom hjoin hr hd fun e he => absurd he List.not_mem_nil
    · exact List.forall_mem_cons.2 ⟨hd, ih hr⟩

end Joined

/-! ## Solid characters -/

/-- **A solid character**: no part of any other, and no composite. -/
def IsSolid (c : Char) : Prop :=
  (∀ d, c ∈ decomposeChar d → d = c) ∧ ∀ a b, composePair? a b ≠ some c

namespace IsSolid

variable {c : Char} {t : Text}

theorem mem_of_mem_decomposed (h : IsSolid c) (hc : c ∈ decomposed t) : c ∈ t := by
  obtain ⟨d, hd, hpart⟩ := mem_decomposed.1 hc
  obtain rfl := h.1 d hpart
  exact hd

theorem mem_of_mem_composeText (h : IsSolid c) (hc : c ∈ composeText t) : c ∈ t := by
  by_contra hout
  have hother : ∀ d ∈ composeText t, d ≠ c := by
    refine forall_mem_composeText ?_ fun d hd => ?_
    · rintro a b composite hjoin rfl
      exact h.2 a b hjoin
    · rintro rfl
      exact hout hd
  exact hother c hc rfl

/-- **No solid character comes in with form C.** -/
theorem mem_of_mem_composed (h : IsSolid c) (hc : c ∈ composed t) : c ∈ t :=
  h.mem_of_mem_decomposed (h.mem_of_mem_composeText hc)

/-- **No solid character comes in when accents are removed.** -/
theorem mem_of_mem_withoutAccents (h : IsSolid c) (hc : c ∈ t.withoutAccents) : c ∈ t :=
  h.mem_of_mem_decomposed (List.mem_filter.1 (h.mem_of_mem_composed hc)).1

end IsSolid

/-! ## The space -/

/-- The parts of composites are beyond the space. -/
theorem lt_of_mem_decompositionBlocks :
    ∀ block ∈ decompositionBlocks, ∀ entry ∈ block.2, ∀ n ∈ entry.2, 0x20 < n := by
  decide +kernel

/-- So are the composites. -/
theorem lt_of_mem_compositionGroups :
    ∀ group ∈ compositionGroups, ∀ entry ∈ group.2, 0x20 < entry.2 := by
  decide +kernel

theorem Hangul.lt_of_mem_parts? {n : Nat} {codes : List Nat} (h : parts? n = some codes) :
    ∀ m ∈ codes, 0x20 < m := by
  have hlead : 0x20 < leadBase := by decide
  have hvowel : 0x20 < vowelBase := by decide
  have htrail : 0x20 < trailBase := by decide
  obtain ⟨-, hcodes⟩ := Option.ite_none_right_eq_some.1 h
  obtain rfl := Option.some.inj hcodes
  intro m hm
  -- With or without a trailing consonant, each part is counted from its base.
  have hbase : ∃ i, m = leadBase + i ∨ m = vowelBase + i ∨ m = trailBase + i := by
    split at hm
    · obtain rfl | hm := List.mem_cons.1 hm
      · exact ⟨_, .inl rfl⟩
      · exact ⟨_, .inr (.inl (List.mem_singleton.1 hm))⟩
    · obtain rfl | hm := List.mem_cons.1 hm
      · exact ⟨_, .inl rfl⟩
      obtain rfl | hm := List.mem_cons.1 hm
      · exact ⟨_, .inr (.inl rfl)⟩
      · exact ⟨_, .inr (.inr (List.mem_singleton.1 hm))⟩
  omega

theorem Hangul.lt_of_join? {a b n : Nat} (h : join? a b = some n) : 0x20 < n := by
  have hbase : 0x20 < syllableBase := by decide
  rw [join?] at h
  split at h
  · obtain rfl := Option.some.inj h
    exact Nat.lt_add_right _ hbase
  · obtain ⟨hsyllable, hn⟩ := Option.ite_none_right_eq_some.1 h
    obtain rfl := Option.some.inj hn
    simp only [Bool.and_eq_true, decide_eq_true_eq, and_assoc] at hsyllable
    exact Nat.lt_add_right _ (Nat.lt_of_lt_of_le hbase hsyllable.1)

/-- A character that is given by a number beyond the space is not the space. -/
theorem ofNat_ne_space {n : Nat} (h : 0x20 < n) : Char.ofNat n ≠ ' ' := by
  intro hspace
  have hnum := toNat_charOfNat n
  rw [hspace] at hnum
  have htwenty : (' ' : Char).toNat = 0x20 := rfl
  omega

theorem space_not_mem_map_ofNat {codes : List Nat} (h : ∀ n ∈ codes, 0x20 < n) :
    ' ' ∉ codes.map Char.ofNat := by
  intro hmem
  obtain ⟨n, hn, hspace⟩ := List.mem_map.1 hmem
  exact ofNat_ne_space (h n hn) hspace

/-- What is looked up in the tables of a table is in one of them. -/
theorem exists_of_lookup_bind {α β γ : Type} [BEq α] [LawfulBEq α] [BEq β] [LawfulBEq β]
    {table : List (α × List (β × γ))} {k : α} {l : β} {v : γ}
    (h : (table.lookup k).bind (·.lookup l) = some v) : ∃ row, (k, row) ∈ table ∧ (l, v) ∈ row := by
  obtain ⟨row, hrow, hv⟩ := Option.bind_eq_some_iff.1 h
  exact ⟨row, mem_of_lookup_eq_some hrow, mem_of_lookup_eq_some hv⟩

/-- **The space is solid.** -/
theorem isSolid_space : IsSolid ' ' := by
  constructor
  · intro d hd
    rw [decomposeChar] at hd
    split at hd
    next codes hparts => exact absurd hd (space_not_mem_map_ofNat (Hangul.lt_of_mem_parts? hparts))
    next =>
      split at hd
      next codes hentry =>
        obtain ⟨block, hblock, hcodes⟩ := exists_of_lookup_bind hentry
        exact absurd hd (space_not_mem_map_ofNat (lt_of_mem_decompositionBlocks _ hblock _ hcodes))
      next => exact (List.mem_singleton.1 hd).symm
  · intro a b hab
    rw [composePair?] at hab
    split at hab
    next n hjoin => exact ofNat_ne_space (Hangul.lt_of_join? hjoin) (Option.some.inj hab)
    next =>
      obtain ⟨n, hentry, hspace⟩ := Option.map_eq_some_iff.1 hab
      obtain ⟨group, hgroup, hn⟩ := exists_of_lookup_bind hentry
      exact ofNat_ne_space (lt_of_mem_compositionGroups _ hgroup _ hn) hspace

end Desinence
