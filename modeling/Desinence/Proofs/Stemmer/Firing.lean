/-
Which rule works on a word.

The rules of a stage are tried in the order in which they stand. `Stage.First` says what
it is to be the first that applies, with the conditions of applicability written out,
and the firing rule is just that one. All else follows from the first of these
conditions, that the suffix is the end of the word: there is exactly one stem in front
of it, and the rule puts its replacement behind that stem.

For the same reason it makes no difference what a rule would do to a word that is
shorter than its suffix. `Stage.applyBy` and `Stemmer.stemBy` leave open what a rule
does to a word; whatever it is, as long as it is right where the suffix fits, the stems
are the same.
-/
import Mathlib.Logic.ExistsUnique
import Desinence.Proofs.Stemmer.Passage

set_option autoImplicit false

namespace Desinence

/-! ## What applies -/

/-- **An exception names a word**: the whole of it or, failing `whole`, its end. -/
def Text.Names (e : Text) (whole : Bool) (w : Text) : Prop :=
  if whole then w = e else e <:+ w

instance (e : Text) (whole : Bool) (w : Text) : Decidable (e.Names whole w) :=
  inferInstanceAs (Decidable (if whole then w = e else e <:+ w))

namespace Rule

variable {r : Rule} {whole : Bool} {w : Text}

/-- The veto of a rule, exception by exception. -/
theorem vetoes_iff : r.vetoes whole w = true ↔ ∃ e ∈ r.exceptions, e.Names whole w := by
  rw [vetoes, List.any_eq_true]
  refine exists_congr fun e => and_congr_right fun _ => ?_
  cases whole <;> simp [Text.Names, Text.endsWith_iff]

/-- **Applicability, condition by condition**: the suffix ends the word, no exception
names it, and the stem that is left is long enough. -/
structure Applicable (r : Rule) (whole : Bool) (w : Text) : Prop where
  suffix : r.suffix <:+ w
  exceptions : ∀ e ∈ r.exceptions, ¬e.Names whole w
  minStem : r.minStem ≤ w.length - r.suffix.length

theorem applicable_iff : r.Applicable whole w ↔ r.applies whole w = true := by
  have hveto : r.vetoes whole w = false ↔ ∀ e ∈ r.exceptions, ¬e.Names whole w := by
    rw [← Bool.not_eq_true, vetoes_iff]
    simp only [not_exists, not_and]
  rw [applies_iff, hveto]
  constructor
  · rintro ⟨hsuffix, hexceptions, hstem⟩
    have hle := hsuffix.length_le
    exact ⟨hsuffix, hexceptions, by omega⟩
  · rintro ⟨hsuffix, hexceptions, hlength⟩
    exact ⟨hsuffix, hexceptions, by omega⟩

instance (r : Rule) (whole : Bool) (w : Text) : Decidable (r.Applicable whole w) :=
  decidable_of_iff _ applicable_iff.symm

end Rule

namespace Stage

variable {s : Stage} {w : Text}

/-- **The gates are open** for a word that is long enough and, if there are conditions,
ends with one of them. -/
structure Open (s : Stage) (w : Text) : Prop where
  minWord : s.minWord ≤ w.length
  conditions : s.conditions = [] ∨ ∃ c ∈ s.conditions, c <:+ w

theorem open_iff : s.Open w ↔ s.admits w = true := by
  have hconditions : (s.conditions.isEmpty || s.conditions.any fun c => w.endsWith c) = true ↔
      s.conditions = [] ∨ ∃ c ∈ s.conditions, c <:+ w := by
    simp only [Bool.or_eq_true, List.isEmpty_iff, List.any_eq_true, Text.endsWith_iff]
  rw [admits, Bool.and_eq_true, hconditions, decide_eq_true_iff]
  exact ⟨fun h => ⟨h.minWord, h.conditions⟩, fun h => ⟨h.1, h.2⟩⟩

instance (s : Stage) (w : Text) : Decidable (s.Open w) :=
  decidable_of_iff _ open_iff.symm

/-! ## The first that applies -/

/-- **The applicable rule of least index**, with that index. -/
structure First (s : Stage) (w : Text) (i : Nat) (r : Rule) : Prop where
  rule : s.rules[i]? = some r
  applicable : r.Applicable s.wholeWord w
  least : ∀ j < i, ∀ q ∈ s.rules[j]?, ¬q.Applicable s.wholeWord w

/-- **The firing rule is the first that applies.** -/
theorem firing_eq_some_iff {r : Rule} : s.firing w = some r ↔ ∃ i, s.First w i r := by
  rw [firing, List.find?_eq_some_iff_getElem, ← Rule.applicable_iff]
  constructor
  · rintro ⟨happlicable, i, hi, hrule, hleast⟩
    refine ⟨i, List.getElem?_eq_some_iff.2 ⟨hi, hrule⟩, happlicable, fun j hj q hq happ => ?_⟩
    obtain ⟨hjlength, rfl⟩ := List.getElem?_eq_some_iff.1 hq
    have hnot := hleast j hj
    rw [Rule.applicable_iff.1 happ] at hnot
    exact absurd hnot (by decide)
  · rintro ⟨i, hrule, happlicable, hleast⟩
    obtain ⟨hi, hr⟩ := List.getElem?_eq_some_iff.1 hrule
    refine ⟨happlicable, i, hi, hr, fun j hj => ?_⟩
    have hnot := hleast j hj s.rules[j] (List.getElem?_eq_getElem _)
    rw [Rule.applicable_iff] at hnot
    simpa using hnot

theorem firing_eq_none_iff :
    s.firing w = none ↔ ¬∃ r ∈ s.rules, r.Applicable s.wholeWord w := by
  simp only [firing, List.find?_eq_none, Rule.applicable_iff, not_exists, not_and]

/-- A suffix ends the word in one way only. -/
theorem existsUnique_stem {r : Rule} (h : r.suffix <:+ w) : ∃! p, w = p ++ r.suffix := by
  obtain ⟨p, rfl⟩ := h
  exact ⟨p, rfl, fun q hq => (List.append_cancel_right hq).symm⟩

/-- **The first rule that applies** trades its suffix for its replacement, if the gates
are open. -/
theorem First.apply_eq {i : Nat} {r : Rule} (h : s.First w i r) (hopen : s.Open w) {p : Text}
    (hp : w = p ++ r.suffix) : r.minStem ≤ p.length ∧ s.apply w = p ++ r.replacement := by
  have hfiring : s.firing w = some r := firing_eq_some_iff.2 ⟨i, h⟩
  have hstem := h.applicable.minStem
  rw [apply_of_firing (open_iff.1 hopen) hfiring]
  subst hp
  rw [List.length_append] at hstem
  exact ⟨by omega, Rule.apply_append r p⟩

/-! ## Other rules behind the same gates -/

/-- The stage with other rules. -/
def withRules (s : Stage) (rs : List Rule) : Stage :=
  { s with rules := rs }

theorem admits_withRules (s : Stage) (rs : List Rule) (w : Text) :
    (s.withRules rs).admits w = s.admits w := rfl

theorem firing_withRules (s : Stage) (rs : List Rule) (w : Text) :
    (s.withRules rs).firing w = rs.find? fun r => r.applies s.wholeWord w := rfl

/-- Behind the same gates it is decisive what the firing rule does. -/
theorem apply_withRules_congr_map {rs rs' : List Rule}
    (h : ((s.withRules rs).firing w).map (fun r => r.apply w) =
      ((s.withRules rs').firing w).map fun r => r.apply w) :
    (s.withRules rs).apply w = (s.withRules rs').apply w := by
  have happly : ∀ qs, (s.withRules qs).apply w =
      if s.admits w then (((s.withRules qs).firing w).map fun r => r.apply w).getD w else w := by
    intro qs
    rw [apply, admits_withRules]
    cases (s.withRules qs).firing w <;> rfl
  rw [happly, happly, h]

/-- Behind the same gates the firing rule decides. -/
theorem apply_withRules_congr {rs rs' : List Rule}
    (h : (s.withRules rs).firing w = (s.withRules rs').firing w) :
    (s.withRules rs).apply w = (s.withRules rs').apply w :=
  apply_withRules_congr_map (congrArg _ h)

/-! ## Where the suffix does not fit -/

/-- The word after the stage, where `act` is what a rule does to a word. -/
def applyBy (act : Rule → Text → Text) (s : Stage) (w : Text) : Text :=
  if s.admits w then (s.firing w).elim w fun r => act r w else w

/-- **A stage puts a rule to work only where its suffix fits**, so what the rule does
elsewhere makes no difference. -/
theorem applyBy_eq_apply {act : Rule → Text → Text}
    (h : ∀ r u, r.suffix <:+ u → act r u = r.apply u) (s : Stage) (w : Text) :
    s.applyBy act w = s.apply w := by
  rw [applyBy]
  cases ha : s.admits w with
  | false => exact (apply_of_not_admits ha).symm
  | true =>
    cases hf : s.firing w with
    | none => exact (apply_of_firing_eq_none hf).symm
    | some r =>
      obtain ⟨-, happlies⟩ := of_firing_eq_some hf
      exact (h r w (Rule.applies_iff.1 happlies).1).trans (apply_of_firing ha hf).symm

end Stage

/-- The word after all stages, where `act` is what a rule does to a word. -/
def Table.runBy (act : Rule → Text → Text) (t : Table) (w : Text) : Text :=
  t.foldl (fun u s => s.applyBy act u) w

/-- The stem of a word, where `act` is what a rule does to a word. -/
def Stemmer.stemBy (act : Rule → Text → Text) (s : Stemmer) (w : Text) : Text :=
  if w.isEmpty then w else s.finish (s.table.runBy act w.normalised)

theorem Stemmer.stemBy_eq_stem {act : Rule → Text → Text}
    (h : ∀ r u, r.suffix <:+ u → act r u = r.apply u) (s : Stemmer) (w : Text) :
    s.stemBy act w = s.stem w := by
  have hstage : (fun (u : Text) (stage : Stage) => stage.applyBy act u) =
      fun u stage => stage.apply u := by
    funext u stage
    exact Stage.applyBy_eq_apply h stage u
  rw [stemBy, stem, Table.runBy, Table.run, hstage]

/-- **The first rule that applies does all of it.** If the gates of a stage are open and
some rule applies, then there is exactly one stem in front of the suffix of the first
that does; it is as long as that rule asks for, and the stage puts the replacement
behind it. In all other cases the word stays as it is. No rule is put to work on a word
shorter than its suffix: whatever rules would do there, stages and stemmers do the
same. -/
theorem first_applicable_works (s : Stage) (w : Text) :
    (s.Open w → (∃ r ∈ s.rules, r.Applicable s.wholeWord w) →
      ∃ i r, s.First w i r ∧ (∃! p, w = p ++ r.suffix) ∧
        ∀ p, w = p ++ r.suffix → r.minStem ≤ p.length ∧ s.apply w = p ++ r.replacement) ∧
    (¬(s.Open w ∧ ∃ r ∈ s.rules, r.Applicable s.wholeWord w) → s.apply w = w) ∧
    (∀ r, s.firing w = some r → r.suffix.length ≤ w.length) ∧
    ∀ act : Rule → Text → Text, (∀ r u, r.suffix.length ≤ u.length → act r u = r.apply u) →
      s.applyBy act w = s.apply w ∧ ∀ m : Stemmer, m.stemBy act w = m.stem w := by
  refine ⟨fun hopen hsome => ?_, fun hnot => ?_, fun r hr => ?_, fun act hact => ?_⟩
  · obtain ⟨r, hr⟩ : ∃ r, s.firing w = some r := by
      rw [← Option.ne_none_iff_exists']
      exact fun hnone => Stage.firing_eq_none_iff.1 hnone hsome
    obtain ⟨i, hfirst⟩ := Stage.firing_eq_some_iff.1 hr
    exact ⟨i, r, hfirst, Stage.existsUnique_stem hfirst.applicable.suffix,
      fun p hp => hfirst.apply_eq hopen hp⟩
  · by_cases hopen : s.Open w
    · exact Stage.apply_of_firing_eq_none
        (Stage.firing_eq_none_iff.2 fun hsome => hnot ⟨hopen, hsome⟩)
    · rw [Stage.open_iff, Bool.not_eq_true] at hopen
      exact Stage.apply_of_not_admits hopen
  · obtain ⟨-, happlies⟩ := Stage.of_firing_eq_some hr
    exact (Rule.applies_iff.1 happlies).1.length_le
  · have hfits : ∀ r u, r.suffix <:+ u → act r u = r.apply u :=
      fun r u hsuffix => hact r u hsuffix.length_le
    exact ⟨Stage.applyBy_eq_apply hfits s w, fun m => m.stemBy_eq_stem hfits w⟩

/-- In whole-word mode the first rule is vetoed by the word itself and the second wants a
longer stem, so the one with the empty suffix works. A shorter word does not get in. -/
theorem first_applicable_works_empty_suffix :
    let s : Stage := ⟨"Noun".toList, 3, true, [['a']],
      [⟨['a'], 1, [], ["casa".toList]⟩, ⟨"sa".toList, 3, [], []⟩, ⟨[], 2, ['x'], []⟩]⟩
    s.Open "casa".toList ∧ (∃ r ∈ s.rules, r.Applicable s.wholeWord "casa".toList) ∧
      s.apply "casa".toList = "casax".toList ∧
      ¬s.Open "sa".toList ∧ s.apply "sa".toList = "sa".toList := by
  intro s
  have hopen : s.Open "casa".toList := by decide
  have hsome : ∃ r ∈ s.rules, r.Applicable s.wholeWord "casa".toList := by decide
  have hclosed : ¬s.Open "sa".toList := by decide
  obtain ⟨hfires, -⟩ := first_applicable_works s "casa".toList
  obtain ⟨i, r, hfirst, -, hworks⟩ := hfires hopen hsome
  have hthird : s.firing "casa".toList = some ⟨[], 2, ['x'], []⟩ := by decide
  obtain rfl := Option.some.inj (hthird.symm.trans (Stage.firing_eq_some_iff.2 ⟨i, hfirst⟩))
  obtain ⟨-, hstays, -⟩ := first_applicable_works s "sa".toList
  exact ⟨hopen, hsome, (hworks "casa".toList (by decide)).2, hclosed,
    hstays fun h => hclosed h.1⟩

end Desinence
