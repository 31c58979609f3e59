/-
Gates that say nothing new.

A stage has two gates, a least length and a list of endings. If every rule of the
stage has one of those endings at the end of its suffix, and needs a word of at
least that length, then a word which the gates turn away is one that no rule
would have worked on: the gates save the search for a rule and change no outcome.
So it is with all stages of the table for Portuguese, which stems as well
without its gates.
-/
import Desinence.Portuguese
import Desinence.Proofs.Stemmer.Firing

set_option autoImplicit false

namespace Desinence

namespace Stage

/-- The stage with its gates open. -/
def ungated (s : Stage) : Stage :=
  { s with minWord := 0, conditions := [] }

/-- **Gates that the rules imply**: no rule works on a word that ends otherwise, or
that is shorter, than the gates have it. -/
structure GatesImplied (s : Stage) : Prop where
  conditions : s.conditions = [] ∨ ∀ r ∈ s.rules, ∃ c ∈ s.conditions, c <:+ r.suffix
  minWord : ∀ r ∈ s.rules, s.minWord ≤ r.suffix.length + r.minStem

instance (s : Stage) : Decidable s.GatesImplied :=
  decidable_of_iff
    ((s.conditions = [] ∨ ∀ r ∈ s.rules, ∃ c ∈ s.conditions, c <:+ r.suffix) ∧
      ∀ r ∈ s.rules, s.minWord ≤ r.suffix.length + r.minStem)
    ⟨fun h => ⟨h.1, h.2⟩, fun h => ⟨h.conditions, h.minWord⟩⟩

variable {s : Stage} {w : Text}

theorem admits_ungated (s : Stage) (w : Text) : s.ungated.admits w = true := by
  simp [admits, ungated]

/-- The rules are not touched. -/
theorem firing_ungated (s : Stage) (w : Text) : s.ungated.firing w = s.firing w := rfl

/-- **The gates let in every word that a rule can work on**, if the rules imply
them. -/
theorem GatesImplied.admits_of_applies (h : s.GatesImplied) {r : Rule} (hr : r ∈ s.rules)
    (hw : r.applies s.wholeWord w = true) : s.admits w = true := by
  obtain ⟨hsuffix, -, hlength⟩ := Rule.applies_iff.1 hw
  have hmin : s.minWord ≤ w.length := Nat.le_trans (h.minWord r hr) hlength
  have hending : s.conditions = [] ∨ ∃ c ∈ s.conditions, c <:+ w := by
    refine h.conditions.imp_right fun hrules => ?_
    obtain ⟨c, hc, hcsuffix⟩ := hrules r hr
    exact ⟨c, hc, hcsuffix.trans hsuffix⟩
  exact open_iff.1 ⟨hmin, hending⟩

/-- **A stage whose gates the rules imply** does the same with its gates open. -/
theorem GatesImplied.apply_ungated (h : s.GatesImplied) (w : Text) :
    s.ungated.apply w = s.apply w := by
  cases hf : s.firing w with
  | none =>
    -- Nothing fires, so it does not matter what the gates say.
    have hopen : s.ungated.firing w = none := (firing_ungated s w).trans hf
    rw [apply_of_firing_eq_none hf, apply_of_firing_eq_none hopen]
  | some r =>
    have hopen : s.ungated.firing w = some r := (firing_ungated s w).trans hf
    obtain ⟨hr, happlies⟩ := of_firing_eq_some hf
    rw [apply_of_firing (h.admits_of_applies hr happlies) hf,
      apply_of_firing (admits_ungated s w) hopen]

end Stage

/-- A run does not change with stages that do the same. -/
theorem Table.run_map_congr {t : Table} {f : Stage → Stage}
    (h : ∀ s ∈ t, ∀ w, (f s).apply w = s.apply w) (w : Text) : Table.run (t.map f) w = t.run w :=
  Table.run_congr (List.forall₂_map_right_iff.2 (List.forall₂_same.2 h)) w

/-- Nor does a stem. -/
theorem Stemmer.stem_map_congr {t : Table} {f : Stage → Stage}
    (h : ∀ s ∈ t, ∀ w, (f s).apply w = s.apply w) (removeAccents : Bool) (w : Text) :
    (Stemmer.mk (t.map f) removeAccents).stem w = (Stemmer.mk t removeAccents).stem w :=
  stem_of_run_eq (Table.run_map_congr h _) removeAccents

/-- **The gates of Portuguese** are implied by the rules behind them. -/
theorem Portuguese.gatesImplied : ∀ s ∈ Portuguese.table, s.GatesImplied := by
  decide +kernel

/-- **Implied gates are filters only.** A stage whose conditions each of its suffixes
meets, and whose least length each of its rules asks for, does with every word what
it does with its gates open. The table for Portuguese has no other stages, so with
all gates open it gives every word the same stem. -/
theorem apply_of_implied_gates :
    (∀ s : Stage, s.GatesImplied → ∀ w : Text, s.apply w = s.ungated.apply w) ∧
    (∀ s ∈ Portuguese.table, s.GatesImplied) ∧
    ∀ (removeAccents : Bool) (w : Text),
      (Stemmer.mk Portuguese.table removeAccents).stem w =
        (Stemmer.mk (Portuguese.table.map Stage.ungated) removeAccents).stem w := by
  refine ⟨fun s h w => (h.apply_ungated w).symm, Portuguese.gatesImplied, ?_⟩
  intro removeAccents w
  have hstages : ∀ s ∈ Portuguese.table, ∀ u, s.ungated.apply u = s.apply u :=
    fun s hs u => (Portuguese.gatesImplied s hs).apply_ungated u
  exact (Stemmer.stem_map_congr hstages removeAccents w).symm

/-- A stage that just implies its gates; one word passes them and the other two are
turned away, by their ending and by their length. -/
theorem apply_of_implied_gates_tight :
    let s : Stage :=
      ⟨"Plural".toList, 3, false, [['s'], ['z']], [⟨"ns".toList, 1, ['m'], []⟩, ⟨['z'], 2, [], []⟩]⟩
    s.GatesImplied ∧
      s.apply "bens".toList = "bem".toList ∧ s.ungated.apply "bens".toList = "bem".toList ∧
      s.admits "bem".toList = false ∧ s.ungated.apply "bem".toList = "bem".toList ∧
      s.admits "ns".toList = false ∧ s.ungated.apply "ns".toList = "ns".toList := by
  intro s
  have hs : s.GatesImplied := by decide
  have hbens : s.apply "bens".toList = "bem".toList := by decide
  have hbem : s.apply "bem".toList = "bem".toList := by decide
  have hns : s.apply "ns".toList = "ns".toList := by decide
  obtain ⟨hsame, -, -⟩ := apply_of_implied_gates
  have hopen := hsame s hs
  exact ⟨hs, hbens, (hopen _).symm.trans hbens, by decide, (hopen _).symm.trans hbem, by decide,
    (hopen _).symm.trans hns⟩

end Desinence
