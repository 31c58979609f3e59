/-
A word on its way through a table.

A stage leaves a word alone or lets one of its rules work on it, and a rule that
works trades the suffix behind a stem of sufficient length for its replacement.
`Stage.apply_cases` says this once. What every such trade keeps, a stage keeps,
and a run of stages, and every word that a stemmer has in hand between taking
the normal form and removing the accents (`Stemmer.through`).
-/
import Mathlib.Data.List.Forall2
import Desinence.Stemmer

set_option autoImplicit false

namespace Desinence

/-- The rules of all stages. -/
def Table.rules (t : Table) : List Rule :=
  t.flatMap Stage.rules

/-! ## What a stage does -/

/-- A rule that fires applies. -/
theorem Stage.of_firing_eq_some {s : Stage} {w : Text} {r : Rule} (h : s.firing w = some r) :
    r ∈ s.rules ∧ r.applies s.wholeWord w = true := by
  have hr := List.find?_some h
  exact ⟨List.mem_of_find?_eq_some h, hr⟩

/-- **One stage**: the word stays as it is, or one of the rules finds a stem in
front of its suffix, of at least the length it asks for, and puts the
replacement behind it. -/
theorem Stage.apply_cases (s : Stage) (w : Text) :
    s.apply w = w ∨ ∃ r ∈ s.rules, ∃ p, w = p ++ r.suffix ∧ r.minStem ≤ p.length ∧
      s.apply w = p ++ r.replacement := by
  cases ha : s.admits w with
  | false => exact .inl (apply_of_not_admits ha)
  | true =>
    cases hf : s.firing w with
    | none => exact .inl (apply_of_firing_eq_none hf)
    | some r =>
      obtain ⟨hmem, happlies⟩ := of_firing_eq_some hf
      obtain ⟨⟨p, rfl⟩, -, hlen⟩ := Rule.applies_iff.1 happlies
      -- Suffix and least stem fit into the word, so its stem is long enough.
      refine .inr ⟨r, hmem, p, rfl, ?_, ?_⟩
      · rw [List.length_append] at hlen
        omega
      · rw [apply_of_firing ha hf, Rule.apply_append]

/-- The rule keeps a property of words: whenever it may work on a word that has
the property, the outcome has it. -/
def Rule.Keeps (P : Text → Prop) (r : Rule) : Prop :=
  ∀ p, r.minStem ≤ p.length → P (p ++ r.suffix) → P (p ++ r.replacement)

section Keeps

variable {P : Text → Prop}

/-- What each rule keeps, their stage keeps. -/
theorem Stage.apply_of_keeps {s : Stage} (h : ∀ r ∈ s.rules, r.Keeps P) {w : Text} (hw : P w) :
    P (s.apply w) := by
  obtain hsame | ⟨r, hr, p, rfl, hstem, htrade⟩ := s.apply_cases w
  · rw [hsame]
    exact hw
  · rw [htrade]
    exact h r hr p hstem hw

/-- **What each rule keeps, a run of the table keeps.** -/
theorem Table.run_of_keeps {t : Table} (h : ∀ r ∈ t.rules, r.Keeps P) {w : Text} (hw : P w) :
    P (t.run w) := by
  induction t generalizing w with
  | nil => exact hw
  | cons s t ih =>
    rw [rules, List.flatMap_cons, List.forall_mem_append] at h
    rw [run_cons]
    exact ih h.2 (Stage.apply_of_keeps h.1 hw)

end Keeps

/-- Stages that do the same in the same places give the same run. -/
theorem Table.run_congr {t t' : Table}
    (h : List.Forall₂ (fun s s' => ∀ w, Stage.apply s' w = Stage.apply s w) t t') (w : Text) :
    t'.run w = t.run w := by
  induction h generalizing w with
  | nil => rfl
  | cons hs _ ih => rw [run_cons, run_cons, hs, ih]

/-- Tables that run alike on the normal form of a word give it the same stem. -/
theorem Stemmer.stem_of_run_eq {t t' : Table} {w : Text}
    (h : t'.run w.normalised = t.run w.normalised) (removeAccents : Bool) :
    (Stemmer.mk t' removeAccents).stem w = (Stemmer.mk t removeAccents).stem w := by
  rw [stem, stem, h]
  rfl

/-- The words of a run, by the number of stages behind them. -/
theorem Table.getElem?_passes {t : Table} {k : Nat} (hk : k ≤ t.length) (w : Text) :
    (t.passes w)[k]? = some (Table.run (t.take k) w) := by
  induction t generalizing k w with
  | nil =>
    have hk0 : k = 0 := by simpa using hk
    subst hk0
    rfl
  | cons s t ih =>
    cases k with
    | zero => rfl
    | succ k =>
      have hrest : k ≤ t.length := by simpa using hk
      rw [passes, List.getElem?_cons_succ, List.take_succ_cons, run_cons, ih hrest]

namespace Stemmer

/-! ## The words in hand -/

/-- **The word after normalisation and the first `k` stages.** The empty text is
not taken through any of them. -/
def through (s : Stemmer) (k : Nat) (w : Text) : Text :=
  if w.isEmpty then w else Table.run (s.table.take k) w.normalised

theorem through_of_ne_nil {s : Stemmer} {w : Text} (k : Nat) (h : w ≠ []) :
    s.through k w = Table.run (s.table.take k) w.normalised := by
  simp [through, h]

/-- The trace of a word lists the words in hand. -/
theorem getElem?_trace {s : Stemmer} {k : Nat} (hk : k ≤ s.table.length) {w : Text}
    (h : w ≠ []) : (s.trace w)[k]? = some (s.through k w) := by
  rw [trace, Table.getElem?_passes hk, through_of_ne_nil k h]

/-- **Only the removal of accents comes after the last stage.** -/
theorem stem_eq_finish_through (s : Stemmer) (w : Text) :
    s.stem w = s.finish (s.through s.table.length w) := by
  by_cases h : w = []
  · subst h
    cases hs : s.removeAccents
    · simp [stem_nil, through, finish, hs]
    · have hnil : Text.withoutAccents [] = [] := rfl
      simp [stem_nil, through, finish, hs, hnil]
  · rw [stem_of_ne_nil h, through_of_ne_nil _ h, List.take_length]

/-- **What each rule keeps, holds of every word in hand** if it holds of the
normal form. -/
theorem through_of_keeps {s : Stemmer} {P : Text → Prop} (h : ∀ r ∈ s.table.rules, r.Keeps P)
    (k : Nat) {w : Text} (hw : P w.normalised) : P (s.through k w) := by
  by_cases hne : w = []
  · -- The empty text is its own normal form.
    subst hne
    exact hw
  · rw [through_of_ne_nil k hne]
    refine Table.run_of_keeps ?_ hw
    intro r hr
    obtain ⟨stage, hstage, hmem⟩ := List.mem_flatMap.1 hr
    exact h r (List.mem_flatMap.2 ⟨stage, List.mem_of_mem_take hstage, hmem⟩)

end Stemmer

end Desinence
