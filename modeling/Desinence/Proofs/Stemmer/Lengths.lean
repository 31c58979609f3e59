/-
What stays of a word, how short it may get and how long.

A rule leaves the stem in front of its suffix alone, so the least stem length of
all rules is a number of characters that no run touches. After a trade the word
has its stem and the replacement, which gives each rule a floor; no run takes a
word below the least floor of its table, unless it was below at the beginning.
In the other direction a rule adds what its replacement is longer than its
suffix, and a stage has at most one rule at work. A word that is too short for
every rule is not changed at all.
-/
import Desinence.Proofs.Stemmer.Reach

set_option autoImplicit false

namespace Desinence

namespace Rule

/-- The least length of a word that the rule has worked on. -/
def floor (r : Rule) : Nat :=
  r.minStem + r.replacement.length

/-- How much longer a word gets at the hands of the rule. -/
def growth (r : Rule) : Nat :=
  r.replacement.length - r.suffix.length

/-! ## One rule -/

/-- The rule leaves as many characters in front as it asks for. -/
theorem keeps_take {r : Rule} {m : Nat} (h : m ≤ r.minStem) (u : Text) :
    r.Keeps fun v => v.take m = u := by
  intro p hstem hu
  have hm : m ≤ p.length := by omega
  rw [List.take_append_of_le_length hm] at hu ⊢
  exact hu

/-- A word that is too short for the rule stays as it is. -/
theorem keeps_eq_of_short {r : Rule} {u : Text} (h : u.length < r.suffix.length + r.minStem) :
    r.Keeps fun v => v = u := by
  intro p hstem hu
  -- The rule cannot work on the word: the lengths do not go together.
  have hlen := congrArg List.length hu
  rw [List.length_append] at hlen
  omega

/-- A word that has a length up to the floor of the rule has it afterwards. -/
theorem keeps_le_length {r : Rule} {n : Nat} (h : n ≤ r.floor) : r.Keeps fun v => n ≤ v.length := by
  intro p hstem _
  rw [floor] at h
  rw [List.length_append]
  omega

end Rule

/-! ## Tables -/

/-- **The least floor of the rules of a table**, if it has any rules. -/
def Table.floor? (t : Table) : Option Nat :=
  (t.rules.map Rule.floor).min?

theorem Table.floor_le {t : Table} {q : Nat} (hq : t.floor? = some q) {r : Rule}
    (hr : r ∈ t.rules) : q ≤ r.floor := by
  rw [floor?, List.min?_eq_some_iff] at hq
  exact hq.2 _ (List.mem_map_of_mem hr)

/-! ## Growth -/

/-- How much longer a stage makes a word at most. -/
def Stage.growth (s : Stage) : Nat :=
  longest (s.rules.map Rule.growth)

/-- How much longer all stages together make a word at most. -/
def Table.growth (t : Table) : Nat :=
  (t.map Stage.growth).foldr (fun g n => g + n) 0

/-- **A stage lengthens a word by no more than its growth.** -/
theorem Stage.length_apply_le (s : Stage) (w : Text) : (s.apply w).length ≤ w.length + s.growth := by
  obtain hsame | ⟨r, hr, p, rfl, -, htrade⟩ := s.apply_cases w
  · rw [hsame]
    omega
  · have hgrowth : r.growth ≤ s.growth := le_longest_of_mem (List.mem_map_of_mem hr)
    rw [Rule.growth] at hgrowth
    rw [htrade, List.length_append, List.length_append]
    omega

/-- **A run lengthens a word by no more than the growth of the table.** -/
theorem Table.length_run_le (t : Table) (w : Text) : (t.run w).length ≤ w.length + t.growth := by
  induction t generalizing w with
  | nil => exact Nat.le_refl _
  | cons s t ih =>
    have hstage := s.length_apply_le w
    have hrest := ih (s.apply w)
    rw [growth] at hrest ⊢
    rw [run_cons, List.map_cons, List.foldr_cons]
    omega

namespace Stemmer

/-! ## Words in hand -/

/-- A word in hand is at least as long as any number that neither the normal form
nor the floor of a rule is below. -/
theorem le_length_through {s : Stemmer} {n : Nat} (h : ∀ r ∈ s.table.rules, n ≤ r.floor) (k : Nat)
    {w : Text} (hw : n ≤ w.normalised.length) : n ≤ (s.through k w).length :=
  through_of_keeps (fun r hr => Rule.keeps_le_length (h r hr)) k hw

/-- **A normal form that is too short for every rule** is never changed. -/
theorem through_of_short {s : Stemmer} {w : Text}
    (h : ∀ r ∈ s.table.rules, w.normalised.length < r.suffix.length + r.minStem) (k : Nat) :
    s.through k w = w.normalised :=
  through_of_keeps (P := fun v => v = w.normalised)
    (fun r hr => Rule.keeps_eq_of_short (h r hr)) k rfl

/-- The word after the last stage is longer than the normal form by no more than
the growth of the table. -/
theorem length_through_le (s : Stemmer) (w : Text) :
    (s.through s.table.length w).length ≤ w.normalised.length + s.table.growth := by
  by_cases hw : w = []
  · subst hw
    exact Nat.zero_le _
  · rw [through_of_ne_nil _ hw, List.take_length]
    exact Table.length_run_le s.table w.normalised

/-- The shorter of the normal form and the least floor of the table bounds the
length from below. -/
theorem min_floor_le_length_through (s : Stemmer) (k : Nat) (w : Text) :
    s.table.floor?.elim w.normalised.length (min w.normalised.length) ≤ (s.through k w).length := by
  apply le_length_through
  · intro r hr
    cases hq : s.table.floor? with
    | none =>
      -- Without a floor there is no rule.
      rw [Table.floor?, List.min?_eq_none_iff, List.map_eq_nil_iff] at hq
      rw [hq] at hr
      exact absurd hr List.not_mem_nil
    | some q =>
      have hfloor := Table.floor_le hq hr
      exact Nat.le_trans (Nat.min_le_right _ _) hfloor
  · cases s.table.floor? with
    | none => exact Nat.le_refl _
    | some q => exact Nat.min_le_left _ _

/-- **The front of a word and a floor under its length outlast every table.** If
every rule asks for a stem of at least `m` characters, the first `m` of the
normal form stay in place through any number of stages, a shorter normal form
stays altogether, and no word ends up below the least floor that did not begin
there. With `m` positive, what is not empty when the stages begin is not empty
until the accents are removed. -/
theorem front_and_floor_of_through {s : Stemmer} {m : Nat} (h : ∀ r ∈ s.table.rules, m ≤ r.minStem)
    (k : Nat) (w : Text) :
    (s.through k w).take m = w.normalised.take m ∧
      (w.normalised.length < m → s.through k w = w.normalised) ∧
      s.table.floor?.elim w.normalised.length (min w.normalised.length) ≤ (s.through k w).length ∧
      (1 ≤ m → w.normalised ≠ [] → s.through k w ≠ [] ∧ (Stemmer.mk s.table false).stem w ≠ []) := by
  -- With a positive least stem every floor is positive, and so is the length of the normal form.
  have hnonempty : 1 ≤ m → w.normalised ≠ [] → ∀ j, s.through j w ≠ [] := by
    intro hm hw j
    have hlen : 1 ≤ (s.through j w).length := by
      refine le_length_through (fun r hr => ?_) j (List.length_pos_iff.2 hw)
      have hstem := h r hr
      rw [Rule.floor]
      omega
    exact List.ne_nil_of_length_pos hlen
  refine ⟨?_, ?_, min_floor_le_length_through s k w, ?_⟩
  · exact through_of_keeps (fun r hr => Rule.keeps_take (h r hr) _) k rfl
  · intro hshort
    refine through_of_short (fun r hr => ?_) k
    have hstem := h r hr
    omega
  · intro hm hw
    have hstem : (Stemmer.mk s.table false).stem w = s.through s.table.length w :=
      stem_eq_finish_through _ w
    rw [hstem]
    exact ⟨hnonempty hm hw k, hnonempty hm hw _⟩

/-- Both rules find just the stem they ask for, the second in what the first has
written, and the word comes down to the floor. -/
theorem front_and_floor_of_through_tight :
    let adverb : Stage := ⟨"Adverb".toList, 0, false, [], [⟨"amente".toList, 2, ['o'], []⟩]⟩
    let vowel : Stage := ⟨"Vowel".toList, 0, false, [], [⟨['o'], 2, [], []⟩]⟩
    let s : Stemmer := ⟨[adverb, vowel], true⟩
    let w : Text := "Cá-amente".toList
    (∀ r ∈ s.table.rules, 2 ≤ r.minStem) ∧ s.table.floor? = some 2 ∧
      s.through 1 w = "cáo".toList ∧ s.through 2 w = "cá".toList ∧
      (s.through 2 w).take 2 = w.normalised.take 2 ∧ min w.normalised.length 2 ≤ (s.through 2 w).length := by
  intro adverb vowel s w
  have hrules : ∀ r ∈ s.table.rules, 2 ≤ r.minStem := by decide
  have hfloor : s.table.floor? = some 2 := by decide
  have hone : s.through 1 w = "cáo".toList := by decide +kernel
  have htwo : s.through 2 w = "cá".toList := by decide +kernel
  obtain ⟨hfront, -, hlen, -⟩ := front_and_floor_of_through hrules 2 w
  rw [hfloor] at hlen
  exact ⟨hrules, hfloor, hone, htwo, hfront, hlen⟩

end Stemmer

end Desinence
