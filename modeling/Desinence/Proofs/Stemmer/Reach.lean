/-
How far into a word a stemmer reaches.

A stage compares lengths with bounds of its own and looks for suffixes of its
own, so it sees the end of a word only: `Stage.sight` characters decide what it
does, whatever stands in front of them. Each stage may take the longest of its
suffixes off the word, and the next one then has that much less to see.
`Table.reach` adds this up. A word that is at least as long stems in the same
way with anything in front of it, and what stands in front stays as it is.
-/
import Mathlib.Data.List.Find
import Desinence.Proofs.Stemmer.Passage

set_option autoImplicit false

namespace Desinence

/-! ## Sight -/

/-- The greatest of some lengths; 0 if there are none. -/
def longest (ns : List Nat) : Nat :=
  ns.max?.getD 0

theorem le_longest_of_mem {n : Nat} {ns : List Nat} (h : n ∈ ns) : n ≤ longest ns :=
  List.le_max?_getD_of_mem h

/-- How long a word must be for the rule to apply, or for an exception to name
it. -/
def Rule.sight (r : Rule) : Nat :=
  max (r.suffix.length + r.minStem) (longest (r.exceptions.map List.length))

/-- **How much of a word a stage sees**: one character more than any length it
compares with. -/
def Stage.sight (s : Stage) : Nat :=
  1 + max s.minWord
    (max (longest (s.conditions.map List.length)) (longest (s.rules.map Rule.sight)))

/-- How much a stage takes off a word at most: its longest suffix. -/
def Stage.cut (s : Stage) : Nat :=
  longest (s.rules.map fun r => r.suffix.length)

/-- The reach of a table on words that may have lost so many characters: the
sight of each stage, and what the stages in front of it take off. -/
def Table.reachFrom (lost : Nat) : Table → Nat
  | [] => 0
  | s :: t => max (s.sight + lost) (reachFrom (lost + s.cut) t)

/-- **The reach of a table.** -/
def Table.reach (t : Table) : Nat :=
  t.reachFrom 0

/-! ## The end of a word -/

/-- Whether a text ends with another shows at any end that is long enough. -/
theorem Text.endsWith_append {p u s : Text} (h : s.length ≤ u.length) :
    (p ++ u).endsWith s = u.endsWith s := by
  rw [Bool.eq_iff_iff, endsWith_iff, endsWith_iff]
  constructor
  · intro hs
    exact List.suffix_of_suffix_length_le hs (List.suffix_append p u) h
  · intro hs
    exact hs.trans (List.suffix_append p u)

/-- A text that is longer than another is not the other. -/
theorem Text.beq_eq_false_of_length_lt {u e : Text} (h : e.length < u.length) :
    (u == e) = false := by
  rw [beq_eq_false_iff_ne]
  rintro rfl
  omega

/-- A test that agrees on the members holds of one of them in both forms. -/
theorem any_congr_of_mem {α : Type} {f g : α → Bool} {xs : List α} (h : ∀ x ∈ xs, f x = g x) :
    xs.any f = xs.any g := by
  rw [Bool.eq_iff_iff, List.any_eq_true, List.any_eq_true]
  refine exists_congr fun x => and_congr_right fun hx => ?_
  rw [h x hx]

/-! ## Rules -/

namespace Rule

variable {r : Rule} {p u : Text}

/-- In either mode an exception is shorter than the word, so it names the word
by its end or not at all. -/
theorem vetoes_append (whole : Bool) (h : r.sight < u.length) :
    r.vetoes whole (p ++ u) = r.vetoes whole u := by
  refine any_congr_of_mem fun e he => ?_
  have hle : e.length ≤ longest (r.exceptions.map List.length) :=
    le_longest_of_mem (List.mem_map_of_mem he)
  have hlt : e.length < u.length := by
    rw [sight] at h
    omega
  cases whole with
  | true =>
    -- No exception is as long as the word, with or without what is in front.
    have hpu : e.length < (p ++ u).length := by
      rw [List.length_append]
      omega
    simp only [if_true, Text.beq_eq_false_of_length_lt hlt, Text.beq_eq_false_of_length_lt hpu]
  | false =>
    simp only [Bool.false_eq_true, if_false]
    exact Text.endsWith_append (Nat.le_of_lt hlt)

/-- **Applicability shows at the end of the word.** -/
theorem applies_append (whole : Bool) (h : r.sight < u.length) :
    r.applies whole (p ++ u) = r.applies whole u := by
  have hlen : r.suffix.length + r.minStem < u.length := by
    rw [sight] at h
    omega
  have hstem : r.suffix.length + r.minStem ≤ (p ++ u).length := by
    rw [List.length_append]
    omega
  rw [applies, applies, Text.endsWith_append (by omega), vetoes_append whole h,
    decide_eq_true hstem, decide_eq_true (Nat.le_of_lt hlen)]

/-- What stands in front of the suffix stays. -/
theorem apply_append_of_le (h : r.suffix.length ≤ u.length) :
    r.apply (p ++ u) = p ++ r.apply u := by
  have hkept : r.keptLength (p ++ u) = p.length + r.keptLength u := by
    have hpu : r.suffix.length ≤ (p ++ u).length := by
      rw [List.length_append]
      omega
    rw [keptLength, if_pos hpu, keptLength, if_pos h, List.length_append]
    omega
  rw [apply, apply, hkept, List.take_length_add_append, List.append_assoc]

end Rule

/-! ## Stages -/

namespace Stage

variable {s : Stage} {p u : Text}

/-- The rules of a stage see less than the stage. -/
theorem rule_sight_lt {r : Rule} (hr : r ∈ s.rules) : r.sight < s.sight := by
  have hle : r.sight ≤ longest (s.rules.map Rule.sight) :=
    le_longest_of_mem (List.mem_map_of_mem hr)
  rw [sight]
  omega

/-- The gates open alike. -/
theorem admits_append (h : s.sight ≤ u.length) : s.admits (p ++ u) = s.admits u := by
  rw [sight] at h
  have hmin : s.minWord ≤ u.length := by omega
  have hminp : s.minWord ≤ (p ++ u).length := by
    rw [List.length_append]
    omega
  have hconditions : (s.conditions.any fun c => (p ++ u).endsWith c)
      = s.conditions.any fun c => u.endsWith c := by
    refine any_congr_of_mem fun c hc => Text.endsWith_append ?_
    have hle : c.length ≤ longest (s.conditions.map List.length) :=
      le_longest_of_mem (List.mem_map_of_mem hc)
    omega
  rw [admits, admits, hconditions, decide_eq_true hminp, decide_eq_true hmin]

/-- The same rule fires. -/
theorem firing_append (h : s.sight ≤ u.length) : s.firing (p ++ u) = s.firing u :=
  List.find?_congr fun _ hr =>
    Rule.applies_append s.wholeWord (Nat.lt_of_lt_of_le (rule_sight_lt hr) h)

/-- **A stage works on what it sees**, and leaves what stands in front of it. -/
theorem apply_append (h : s.sight ≤ u.length) : s.apply (p ++ u) = p ++ s.apply u := by
  cases ha : s.admits u with
  | false =>
    rw [apply_of_not_admits ha, apply_of_not_admits ((admits_append h).trans ha)]
  | true =>
    have hpu : s.admits (p ++ u) = true := (admits_append h).trans ha
    cases hf : s.firing u with
    | none =>
      rw [apply_of_firing_eq_none hf, apply_of_firing_eq_none ((firing_append h).trans hf)]
    | some r =>
      obtain ⟨-, hr⟩ := of_firing_eq_some hf
      have hle : r.suffix.length ≤ u.length := (Rule.applies_iff.1 hr).1.length_le
      rw [apply_of_firing ha hf, apply_of_firing hpu ((firing_append h).trans hf),
        Rule.apply_append_of_le hle]

/-- A stage takes off no more than its longest suffix. -/
theorem length_le_length_apply (s : Stage) (u : Text) :
    u.length ≤ (s.apply u).length + s.cut := by
  obtain hsame | ⟨r, hmem, p, rfl, -, htrade⟩ := s.apply_cases u
  · rw [hsame]
    omega
  · have hcut : r.suffix.length ≤ s.cut := le_longest_of_mem (List.mem_map_of_mem hmem)
    rw [htrade, List.length_append, List.length_append]
    omega

end Stage

/-! ## Tables -/

/-- **All stages work on what they see.** The induction is on the stages, for
any loss in front of them: the word and what it has lost are together at least
as long as the reach. -/
theorem Table.run_append_of_reachFrom {t : Table} (lost : Nat) {u : Text} (p : Text)
    (h : t.reachFrom lost ≤ u.length + lost) : t.run (p ++ u) = p ++ t.run u := by
  induction t generalizing lost u with
  | nil => rfl
  | cons s t ih =>
    rw [reachFrom] at h
    have hsight : s.sight ≤ u.length := by omega
    -- What the stage takes off is counted as lost to the stages behind it.
    have hrest : reachFrom (lost + s.cut) t ≤ (s.apply u).length + (lost + s.cut) := by
      have hcut := s.length_le_length_apply u
      omega
    rw [run_cons, run_cons, Stage.apply_append hsight, ih _ hrest]

namespace Stemmer

/-- **Stemming touches the end of a word only.** Where accents stay, anything in
front of a text whose normal form is at least as long as the table's reach
changes nothing about its stem, and comes out in its own normal form. -/
theorem stem_append_of_reach_le {table : Table} {t : Text} (x : Text) (ht : t ≠ [])
    (h : table.reach ≤ t.normalised.length) :
    (Stemmer.mk table false).stem (x ++ t) = x.normalised ++ (Stemmer.mk table false).stem t := by
  have hrun := Table.run_append_of_reachFrom 0 x.normalised h
  have hxt : x ++ t ≠ [] := by simp [ht]
  rw [stem_of_ne_nil hxt, stem_of_ne_nil ht, Text.normalised_append]
  exact hrun

/-- A stage of either mode, and a text just as long as their reach. -/
theorem stem_append_of_reach_le_six :
    let plural : Stage :=
      ⟨"Plural".toList, 3, false, ["s".toList], [⟨"s".toList, 2, [], ["gas".toList]⟩]⟩
    let gender : Stage := ⟨"Gender".toList, 0, true, [], [⟨"a".toList, 2, [], ["casa".toList]⟩]⟩
    let t : Text := "Cascas".toList
    Table.reach [plural, gender] = 6 ∧ t.normalised.length = 6 ∧
      (Stemmer.mk [plural, gender] false).stem ("Ex-".toList ++ t) = "excasc".toList := by
  intro plural gender t
  have hreach : Table.reach [plural, gender] = 6 := by rfl
  have hlen : t.normalised.length = 6 := by rfl
  have hle : Table.reach [plural, gender] ≤ t.normalised.length := by rw [hreach, hlen]
  have hstem := stem_append_of_reach_le "Ex-".toList (List.cons_ne_nil _ _) hle
  exact ⟨hreach, hlen, hstem.trans rfl⟩

end Stemmer

end Desinence
