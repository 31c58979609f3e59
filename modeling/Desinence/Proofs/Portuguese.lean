/-
Lengths of Portuguese stems.

Three facts about the 241 rules carry everything here. A rule needs a word of
three characters at least; a word that a rule has worked on has at least two; and
only among the feminine endings is there a replacement longer than the suffix it
stands for, by one character. The feminine stage runs once, so a stem is longer
than the normal form of its word by one character at most.
-/
import Desinence.Proofs.Stemmer.Alphabet
import Desinence.Proofs.Stemmer.Lengths

set_option autoImplicit false

namespace Desinence

namespace Portuguese

/-! ## The rules -/

/-- What the rules ask of a word and what they leave of it. -/
theorem bounds_of_mem_rules :
    ∀ r ∈ table.rules, 3 ≤ r.suffix.length + r.minStem ∧ 2 ≤ r.floor := by
  decide +kernel

/-- How much longer each stage makes a word at most. -/
theorem map_growth_table : table.map Stage.growth = [0, 0, 1, 0, 0, 0, 0] := by
  decide +kernel

/-- The stages together lengthen a word as the feminine one does. -/
theorem growth_table : table.growth = 1 := by
  rw [Table.growth, map_growth_table]
  rfl

theorem growth_feminine : feminine.growth = 1 := by
  have h := map_growth_table
  simp only [table, List.map_cons, List.cons.injEq] at h
  exact h.2.2.1

/-- Every other stage lengthens nothing. -/
theorem growth_of_ne_feminine {stage : Stage} (hmem : stage ∈ table) (hne : stage ≠ feminine) :
    stage.growth = 0 := by
  have h := map_growth_table
  simp only [table, List.map_cons, List.map_nil, List.cons.injEq, and_true] at h
  obtain ⟨hplural, hadverb, -, haugmentative, hnoun, hverb, hvowel⟩ := h
  simp only [table, List.mem_cons, List.not_mem_nil, or_false] at hmem
  obtain rfl | rfl | rfl | rfl | rfl | rfl | rfl := hmem
  · exact hplural
  · exact hadverb
  · exact absurd rfl hne
  · exact haugmentative
  · exact hnoun
  · exact hverb
  · exact hvowel

/-! ## Stems -/

/-- **How long a Portuguese stem is.** A normal form of at most two characters
loses its accents and nothing else. A longer one keeps two characters and gains
at most one. No stage makes any word longer but the feminine one, and that one by
no more than a character. -/
theorem length_bounds_of_stem (w : Text) :
    let s := Stemmer.mk table true
    let n := w.normalised.length
    (n ≤ 2 → s.stem w = w.normalised.withoutAccents) ∧
      (2 < n → 2 ≤ (s.stem w).length ∧ (s.stem w).length ≤ n + 1) ∧
      (∀ stage ∈ table, stage ≠ feminine → ∀ u : Text, (stage.apply u).length ≤ u.length) ∧
      ∀ u : Text, (feminine.apply u).length ≤ u.length + 1 := by
  intro s n
  have hstem : s.stem w = (s.through table.length w).withoutAccents := Stemmer.stem_eq_withoutAccents table w
  have hlength : (s.stem w).length = (s.through table.length w).length := by
    rw [hstem]
    exact Text.length_withoutAccents (Stemmer.isSmall_through isSmall_replacement _ w)
  refine ⟨?_, ?_, ?_, ?_⟩
  · intro hn
    have hsame : s.through table.length w = w.normalised := by
      refine Stemmer.through_of_short (fun r hr => ?_) _
      have hneed := (bounds_of_mem_rules r hr).1
      omega
    rw [hstem, hsame]
  · intro hn
    have hfloor : 2 ≤ (s.through table.length w).length :=
      Stemmer.le_length_through (fun r hr => (bounds_of_mem_rules r hr).2) _ (by omega)
    have hgrowth := Stemmer.length_through_le s w
    have htable : s.table.growth = 1 := growth_table
    rw [htable] at hgrowth
    rw [hlength]
    exact ⟨hfloor, hgrowth⟩
  · intro stage hmem hne u
    have hle := stage.length_apply_le u
    rw [growth_of_ne_feminine hmem hne] at hle
    exact hle
  · intro u
    have hle := feminine.length_apply_le u
    rw [growth_feminine] at hle
    exact hle

/-- The three bounds are met: two characters that only lose their accent, two left
of three, and four made of three. -/
theorem length_bounds_of_stem_met :
    let s := Stemmer.mk table true
    s.stem "Pé".toList = "pe".toList ∧ s.stem "uns".toList = "um".toList ∧
      s.stem "Clã!".toList = "clao".toList ∧
      2 ≤ (s.stem "uns".toList).length ∧ (s.stem "Clã!".toList).length ≤ 3 + 1 := by
  intro s
  have hpe : (Text.normalised "Pé".toList).length = 2 := by decide +kernel
  have hbare : Text.withoutAccents (Text.normalised "Pé".toList) = "pe".toList := by decide +kernel
  have huns : s.stem "uns".toList = "um".toList := by decide +kernel
  have hcla : s.stem "Clã!".toList = "clao".toList := by decide +kernel
  have hn : (Text.normalised "uns".toList).length = 3 := by decide +kernel
  have hm : (Text.normalised "Clã!".toList).length = 3 := by decide +kernel
  obtain ⟨hshort, -⟩ := length_bounds_of_stem "Pé".toList
  obtain ⟨-, hlong, -⟩ := length_bounds_of_stem "uns".toList
  obtain ⟨-, hgrown, -⟩ := length_bounds_of_stem "Clã!".toList
  refine ⟨(hshort (by omega)).trans hbare, huns, hcla, (hlong (by omega)).1, ?_⟩
  have h := (hgrown (by omega)).2
  rw [hm] at h
  exact h

end Portuguese

end Desinence
