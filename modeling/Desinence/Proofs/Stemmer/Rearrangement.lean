/-
Rules in another order.

Of the rules of a stage the first that applies to a word works on it, so it seems that
their order decides. But all rules that apply to one word have suffixes at the end of
that word, and of two such suffixes the longer one ends with the shorter. So two rules
can stand in each other's way only if their suffixes are comparable in this manner. A
rearrangement that keeps the order of any two comparable rules keeps the order of the
rules that apply, whatever the word, and the first of them stays the first.
-/
import Mathlib.Logic.Equiv.Defs
import Desinence.Proofs.Stemmer.Firing

set_option autoImplicit false

namespace Desinence

/-! ## Comparable rules -/

/-- **Rules in each other's way**: the suffix of one of them ends with that of the
other. -/
def Rule.Comparable (q r : Rule) : Prop :=
  q.suffix <:+ r.suffix ∨ r.suffix <:+ q.suffix

instance (q r : Rule) : Decidable (q.Comparable r) :=
  inferInstanceAs (Decidable (_ ∨ _))

/-- **Rules that apply to one word are comparable.** -/
theorem Rule.Applicable.comparable {q r : Rule} {whole : Bool} {w : Text}
    (hq : q.Applicable whole w) (hr : r.Applicable whole w) : q.Comparable r :=
  List.suffix_or_suffix_of_suffix hq.suffix hr.suffix

/-! ## Rearrangements -/

/-- **The same rules in another order.** `place` says where each of them has gone, and of
two comparable rules that which came first still does. -/
def Rearranges (rs rs' : List Rule) : Prop :=
  ∃ place : Fin rs.length ≃ Fin rs'.length,
    (∀ i, rs'.get (place i) = rs.get i) ∧
      ∀ i j, i < j → (rs.get i).Comparable (rs.get j) → place i < place j

theorem Rearranges.refl (rs : List Rule) : Rearranges rs rs :=
  ⟨Equiv.refl _, fun _ => rfl, fun _ _ h _ => h⟩

namespace Stage

/-- The stage with its rules rearranged. -/
def Rearranges (s s' : Stage) : Prop :=
  ∃ rs, Desinence.Rearranges s.rules rs ∧ s' = s.withRules rs

variable {s : Stage} {rs : List Rule} {w : Text}

/-- **The first that applies stays the first.** Whatever applies and stands in front of it
in the new order stood behind it in the old one, and it is comparable. -/
theorem First.of_rearranges {place : Fin s.rules.length ≃ Fin rs.length}
    (hrule : ∀ i, rs.get (place i) = s.rules.get i)
    (horder : ∀ i j, i < j → (s.rules.get i).Comparable (s.rules.get j) → place i < place j)
    {i : Fin s.rules.length} {r : Rule} (h : s.First w i r) :
    (s.withRules rs).First w (place i) r := by
  obtain ⟨_, hr⟩ := List.getElem?_eq_some_iff.1 h.rule
  refine ⟨List.getElem?_eq_some_iff.2 ⟨(place i).isLt, (hrule i).trans hr⟩, h.applicable, ?_⟩
  intro k hk q hq happlicable
  obtain ⟨hklength, rfl⟩ := List.getElem?_eq_some_iff.1 hq
  -- The rule in front comes from place `j` of the old order.
  obtain ⟨j, hj⟩ := place.surjective ⟨k, hklength⟩
  have hkj : rs[k] = s.rules.get j := by
    rw [← hrule j, hj]
    rfl
  have hjapplicable : (s.rules.get j).Applicable s.wholeWord w := hkj ▸ happlicable
  have hlt : place j < place i := by
    rw [hj]
    exact hk
  rcases Nat.lt_trichotomy j i with hji | hji | hij
  · exact h.least j hji _ (List.getElem?_eq_getElem j.isLt) hjapplicable
  · rw [Fin.ext hji] at hlt
    exact absurd hlt (Nat.lt_irrefl _)
  · have hir : s.rules.get i = r := hr
    have hcomparable : (s.rules.get i).Comparable (s.rules.get j) :=
      (hir ▸ h.applicable).comparable hjapplicable
    exact absurd (horder i j hij hcomparable) (Nat.lt_asymm hlt)

/-- **Rearranged rules fire alike.** -/
theorem firing_withRules_of_rearranges (h : Desinence.Rearranges s.rules rs) (w : Text) :
    (s.withRules rs).firing w = s.firing w := by
  obtain ⟨place, hrule, horder⟩ := h
  cases hf : s.firing w with
  | none =>
    rw [firing_eq_none_iff]
    rintro ⟨q, hq, happlicable⟩
    obtain ⟨k, rfl⟩ := List.get_of_mem hq
    obtain ⟨j, rfl⟩ := place.surjective k
    refine firing_eq_none_iff.1 hf ⟨s.rules.get j, List.get_mem _ _, ?_⟩
    rw [← hrule j]
    exact happlicable
  | some r =>
    obtain ⟨i, hfirst⟩ := firing_eq_some_iff.1 hf
    obtain ⟨hi, -⟩ := List.getElem?_eq_some_iff.1 hfirst.rule
    exact firing_eq_some_iff.2 ⟨_, First.of_rearranges (i := ⟨i, hi⟩) hrule horder hfirst⟩

/-- **A stage with its rules rearranged** does the same. -/
theorem Rearranges.apply_eq {s' : Stage} (h : s.Rearranges s') (w : Text) :
    s'.apply w = s.apply w := by
  obtain ⟨rs, hrs, rfl⟩ := h
  have hfiring : (s.withRules rs).firing w = (s.withRules s.rules).firing w :=
    firing_withRules_of_rearranges hrs w
  exact apply_withRules_congr hfiring

end Stage

/-- **Order matters between comparable rules only.** A stage whose rules are rearranged,
without a change to the order of any two of which one has a suffix that ends with the
other's, does the same to every word. And where any stages of a table are rearranged
like this, all words keep their stems. -/
theorem stem_of_rearranged :
    (∀ s s' : Stage, s.Rearranges s' → ∀ w, s'.apply w = s.apply w) ∧
    ∀ t t' : Table, List.Forall₂ Stage.Rearranges t t' → ∀ (removeAccents : Bool) (w : Text),
      (Stemmer.mk t' removeAccents).stem w = (Stemmer.mk t removeAccents).stem w := by
  refine ⟨fun s s' h w => h.apply_eq w, fun t t' h removeAccents w => ?_⟩
  have hrun := Table.run_congr (h.imp fun s s' hs => hs.apply_eq)
  exact Stemmer.stem_of_run_eq (hrun _) removeAccents

/-- The rule for a vowel goes in front of two for comparable suffixes, which stay in their
order; the stage behind is left as it is. -/
theorem stem_of_rearranged_front :
    let ns : Rule := ⟨"ns".toList, 1, ['m'], []⟩
    let s : Rule := ⟨['s'], 2, [], []⟩
    let a : Rule := ⟨['a'], 2, [], []⟩
    let plural : Stage := ⟨"Plural".toList, 0, false, [], [ns, s, a]⟩
    let moved : Stage := ⟨"Plural".toList, 0, false, [], [a, ns, s]⟩
    let verb : Stage := ⟨"Verb".toList, 3, true, [], [⟨['e', 'm'], 1, [], []⟩]⟩
    ns.Comparable s ∧ plural.Rearranges moved ∧
      (Stemmer.mk [plural, verb] true).stem "Bens".toList = "b".toList ∧
      (Stemmer.mk [moved, verb] true).stem "Bens".toList = "b".toList := by
  intro ns s a plural moved verb
  have hmoved : plural.Rearranges moved := by
    let place : Fin 3 ≃ Fin 3 :=
      ⟨(· + 1), (· + 2), (by decide : ∀ i : Fin 3, i + 1 + 2 = i),
        (by decide : ∀ i : Fin 3, i + 2 + 1 = i)⟩
    exact ⟨[a, ns, s], ⟨place, by decide, by decide⟩, rfl⟩
  have hverb : verb.Rearranges verb := ⟨verb.rules, .refl _, rfl⟩
  have hplural : (Stemmer.mk [plural, verb] true).stem "Bens".toList = "b".toList := by
    decide +kernel
  obtain ⟨-, hstem⟩ := stem_of_rearranged
  exact ⟨by decide, hmoved, hplural,
    (hstem _ _ (.cons hmoved (.cons hverb .nil)) true _).trans hplural⟩

end Desinence
