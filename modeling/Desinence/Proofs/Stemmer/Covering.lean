/-
Rules that come to fire, and rules that never do.

Of the rules that apply to a word the first one fires, so a rule is idle if some rule in
front of it applies wherever it does. Whether one suffix rule covers another in this
sense shows on the rules, not on words: in whole-word mode it is enough that its suffix
ends the other's, that it asks for no longer words, and that the other has nothing to do
with any of its exceptions.

That a rule does fire takes one word. A letter which the texts of a stage do not use makes
one for nearly every rule: behind a run of such letters a text of the stage ends the word
only if it ends the suffix itself. So a rule fires on its own suffix behind such a run,
as long as no suffix in front of it in the list is the end of its own.

In the table for Portuguese that is how the rules stand, with one exception. Among the
noun endings `rio` stands in front of `ério` and covers it.
-/
import Desinence.Proofs.Portuguese.Texts
import Desinence.Proofs.Stemmer.Firing

set_option autoImplicit false

namespace Desinence

/-! ## Covering -/

/-- **One rule covers another**: it applies wherever the other does. -/
def Rule.Covers (q r : Rule) (whole : Bool) : Prop :=
  ∀ w, r.Applicable whole w → q.Applicable whole w

/-- In whole-word mode the two suffixes, the two lengths and the exceptions of the
covering rule tell that it covers. -/
theorem Rule.covers_of_suffix {q r : Rule} (hsuffix : q.suffix <:+ r.suffix)
    (hlength : q.suffix.length + q.minStem ≤ r.suffix.length + r.minStem)
    (hexceptions : ∀ e ∈ q.exceptions, ¬r.Applicable true e) : q.Covers r true := by
  intro w hr
  refine ⟨hsuffix.trans hr.suffix, fun e he hnames => ?_, ?_⟩
  · have hw : w = e := hnames
    rw [hw] at hr
    exact hexceptions e he hr
  · have hle := hr.suffix.length_le
    have hstem := hr.minStem
    omega

namespace Stage

variable {s : Stage} {i : Nat} {r : Rule}

/-- **A covered rule is never the first that applies.** -/
theorem not_first_of_covers {j : Nat} {q : Rule} (hq : s.rules[j]? = some q) (hj : j < i)
    (hcovers : q.Covers r s.wholeWord) (w : Text) : ¬s.First w i r := fun h =>
  h.least j hj q hq (hcovers w h.applicable)

/-! ## Behind letters that the stage does not use -/

/-- A text without a certain letter ends a word behind a run of that letter only if it
ends the word. -/
theorem suffix_replicate_append_iff {c : Char} {u : Text} (hu : c ∉ u) (k : Nat) (t : Text) :
    u <:+ List.replicate k c ++ t ↔ u <:+ t := by
  constructor
  · intro h
    obtain hut | ⟨x, rfl⟩ := List.suffix_or_suffix_of_suffix h (List.suffix_append _ t)
    · exact hut
    · -- What is left of the longer text in front of `t` is part of the run.
      obtain ⟨y, hy⟩ := h
      rw [← List.append_assoc] at hy
      have hrun : y ++ x = List.replicate k c := List.append_cancel_right hy
      cases x with
      | nil => exact List.suffix_rfl
      | cons d x =>
        have hd : d ∈ List.replicate k c := by simp [← hrun]
        rw [List.eq_of_mem_replicate hd] at hu
        exact absurd List.mem_cons_self hu
  · exact fun h => h.trans (List.suffix_append _ t)

/-- No suffix and no exception of the stage uses the letter. -/
def Lacks (s : Stage) (c : Char) : Prop :=
  ∀ r ∈ s.rules, c ∉ r.suffix ∧ ∀ e ∈ r.exceptions, c ∉ e

instance (s : Stage) (c : Char) : Decidable (s.Lacks c) :=
  inferInstanceAs (Decidable (∀ r ∈ s.rules, c ∉ r.suffix ∧ ∀ e ∈ r.exceptions, c ∉ e))

/-- **A suffix stands clear** in its stage: one of the conditions, if there are any, ends
it, none of the rule's own exceptions does, and no suffix in front of it. -/
structure Clear (s : Stage) (i : Nat) (r : Rule) : Prop where
  rule : s.rules[i]? = some r
  gate : s.conditions = [] ∨ ∃ c ∈ s.conditions, c <:+ r.suffix
  own : ∀ e ∈ r.exceptions, ¬e <:+ r.suffix
  earlier : ∀ j < i, ∀ q ∈ s.rules[j]?, ¬q.suffix <:+ r.suffix

/-- The suffix of a rule behind as many letters as the rule and the stage ask for. -/
def probe (s : Stage) (c : Char) (r : Rule) : Text :=
  List.replicate (max r.minStem (s.minWord - r.suffix.length)) c ++ r.suffix

/-- The gates are open for the probe. -/
theorem Clear.open_probe (h : s.Clear i r) (c : Char) : s.Open (s.probe c r) where
  minWord := by
    rw [probe, List.length_append, List.length_replicate]
    omega
  conditions := h.gate.imp_right fun ⟨u, hu, hsuffix⟩ =>
    ⟨u, hu, hsuffix.trans (List.suffix_append _ _)⟩

/-- **A rule whose suffix stands clear fires** behind letters the stage does not use. -/
theorem Clear.first_probe {c : Char} (hc : s.Lacks c) (h : s.Clear i r) :
    s.First (s.probe c r) i r where
  rule := h.rule
  applicable := by
    obtain ⟨-, hexceptions⟩ := hc r (List.mem_of_getElem? h.rule)
    refine ⟨List.suffix_append _ _, fun e he hnames => ?_, ?_⟩
    · have hends : e <:+ s.probe c r := by
        rw [Text.Names] at hnames
        split at hnames
        · exact hnames ▸ List.suffix_rfl
        · exact hnames
      exact h.own e he ((suffix_replicate_append_iff (hexceptions e he) _ _).1 hends)
    · rw [probe, List.length_append, List.length_replicate]
      omega
  least := fun j hj q hq happlicable => by
    obtain ⟨hsuffix, -⟩ := hc q (List.mem_of_getElem? hq)
    exact h.earlier j hj q hq ((suffix_replicate_append_iff hsuffix _ _).1 happlicable.suffix)

end Stage

/-! ## The table for Portuguese -/

namespace Portuguese

/-- **A suffix stands in front of those that end it**, but for `ério`, which stands behind
`rio`. -/
theorem pairwise_of_mem_table : ∀ stage ∈ table, stage.rules.Pairwise fun q r =>
    q.suffix <:+ r.suffix → q.suffix = "rio".toList ∧ r.suffix = "ério".toList := by
  decide +kernel

/-- The rule for `rio`. -/
def rio : Rule :=
  rule "rio" 5 ""
    ["voluntário", "salário", "aniversário", "diário", "compulsório", "lionário", "próprio",
      "stério", "armário"]

/-- The rule for `ério`. -/
def erio : Rule :=
  rule "ério" 6 ""

/-- The suffix `ério` is that of one rule only. -/
theorem place_of_erio : ∀ stage ∈ table, ∀ row ∈ stage.rules.zipIdx,
    row.1.suffix = "ério".toList → stage = noun ∧ row = (erio, 47) := by
  decide +kernel

theorem getElem?_noun_rio : noun.rules[46]? = some rio := by
  decide +kernel

/-- **The rule for `rio` covers the one for `ério`**: its suffix ends the other one, it asks
for words of eight letters and not of ten, and the other works on none of its
exceptions. -/
theorem rio_covers_erio : rio.Covers erio noun.wholeWord :=
  Rule.covers_of_suffix (by decide) (by decide) (by decide +kernel)

section Rows

variable {stage : Stage} {i : Nat} {r : Rule}

/-- No stage uses a `w`. -/
theorem lacks_of_mem_table (hstage : stage ∈ table) : stage.Lacks 'w' := by
  intro r hr
  obtain ⟨⟨-, hsuffix⟩, -, hexceptions⟩ := texts_of_mem_table stage hstage r hr
  exact ⟨hsuffix, fun e he => (hexceptions e he).2.1⟩

/-- Only `rio` stands in front of a suffix that it ends. -/
theorem suffixes_of_lt (hstage : stage ∈ table) (hr : stage.rules[i]? = some r) {j : Nat}
    (hj : j < i) {q : Rule} (hq : stage.rules[j]? = some q) (hsuffix : q.suffix <:+ r.suffix) :
    q.suffix = "rio".toList ∧ r.suffix = "ério".toList := by
  obtain ⟨hi, rfl⟩ := List.getElem?_eq_some_iff.1 hr
  obtain ⟨hjlength, rfl⟩ := List.getElem?_eq_some_iff.1 hq
  exact List.pairwise_iff_getElem.1 (pairwise_of_mem_table stage hstage) j i hjlength hi hj hsuffix

/-- **Every other suffix stands clear.** -/
theorem clear_of_ne (hstage : stage ∈ table) (hr : stage.rules[i]? = some r)
    (hne : r.suffix ≠ "ério".toList) : stage.Clear i r := by
  obtain ⟨-, hgate, hexceptions⟩ := texts_of_mem_table stage hstage r (List.mem_of_getElem? hr)
  exact ⟨hr, hgate, fun e he => (hexceptions e he).2.2, fun j hj q hq hsuffix =>
    hne (suffixes_of_lt hstage hr hj hq hsuffix).2⟩

/-- The probe for a rule of the table is a word in small letters. -/
theorem isLower_probe (hstage : stage ∈ table) (hr : r ∈ stage.rules) :
    (stage.probe 'w' r).IsLower := by
  intro c hc
  obtain hrun | hsuffix := List.mem_append.1 hc
  · rw [List.eq_of_mem_replicate hrun]
    decide
  · exact (texts_of_mem_table stage hstage r hr).1.1 c hsuffix

/-- Where the rule for `ério` stands. -/
theorem eq_of_suffix_eq (hstage : stage ∈ table) (hr : stage.rules[i]? = some r)
    (heq : r.suffix = "ério".toList) : stage = noun ∧ r = erio ∧ i = 47 := by
  obtain ⟨hnoun, hrow⟩ := place_of_erio stage hstage (r, i)
    (List.mk_mem_zipIdx_iff_getElem?.2 hr) heq
  exact ⟨hnoun, congrArg Prod.fst hrow, congrArg Prod.snd hrow⟩

/-- **Which rules of the table have their turn.** Every rule but the one for `ério` fires
on some word of small letters that the gates let in. That one stands among the noun
endings behind the rule for `rio`, which applies wherever it does, and fires on no word at
all. It is also the only rule that stands behind one whose suffix ends its own. -/
theorem turns_of_rules (hstage : stage ∈ table) (hr : stage.rules[i]? = some r) :
    (r.suffix ≠ "ério".toList →
      ∃ w : Text, w.IsLower ∧ stage.Open w ∧ stage.First w i r) ∧
    (r.suffix = "ério".toList →
      stage = noun ∧ (∃ j < i, stage.rules[j]? = some rio) ∧ rio.Covers r stage.wholeWord ∧
        ∀ w, ¬stage.First w i r) ∧
    ∀ j < i, ∀ q ∈ stage.rules[j]?, q.suffix <:+ r.suffix →
      q.suffix = "rio".toList ∧ r.suffix = "ério".toList := by
  refine ⟨fun hne => ?_, fun heq => ?_, fun j hj q hq => suffixes_of_lt hstage hr hj hq⟩
  · have hclear := clear_of_ne hstage hr hne
    exact ⟨stage.probe 'w' r, isLower_probe hstage (List.mem_of_getElem? hr),
      hclear.open_probe 'w', hclear.first_probe (lacks_of_mem_table hstage)⟩
  · obtain ⟨rfl, rfl, rfl⟩ := eq_of_suffix_eq hstage hr heq
    exact ⟨rfl, ⟨46, by decide, getElem?_noun_rio⟩, rio_covers_erio,
      Stage.not_first_of_covers getElem?_noun_rio (by decide) rio_covers_erio⟩

end Rows

/-- The first plural ending and the noun ending that has no turn. -/
theorem turns_of_rules_ns_and_erio :
    plural ∈ table ∧ plural.rules[0]? = some (rule "ns" 1 "m") ∧
      noun ∈ table ∧ noun.rules[47]? = some erio ∧
      (∃ w : Text, w.IsLower ∧ plural.Open w ∧
        plural.First w 0 (rule "ns" 1 "m")) ∧
      ∀ w, ¬noun.First w 47 erio := by
  have hplural : plural ∈ table := List.mem_cons_self
  have hns : plural.rules[0]? = some (rule "ns" 1 "m") := rfl
  have hnoun : noun ∈ table := by simp [table]
  have herio : noun.rules[47]? = some erio := rfl
  obtain ⟨hfires, -, -⟩ := turns_of_rules hplural hns
  obtain ⟨-, hnever, -⟩ := turns_of_rules hnoun herio
  exact ⟨hplural, hns, hnoun, herio, hfires (by decide), (hnever rfl).2.2.2⟩

/-- **Not every rule has its turn.** On `ministério` the rule for `ério` would leave
`minist`, but the one for `rio` is in front of it, as it is on every such word. -/
theorem not_every_rule_fires :
    erio.Applicable noun.wholeWord "ministério".toList ∧
      noun.apply "ministério".toList = "ministé".toList ∧
      ¬∀ stage ∈ table, ∀ i r, stage.rules[i]? = some r →
        ∃ w : Text, w.IsLower ∧ stage.Open w ∧ stage.First w i r := by
  refine ⟨by decide +kernel, by decide +kernel, fun h => ?_⟩
  obtain ⟨w, -, -, hfirst⟩ := h noun (by simp [table]) 47 erio rfl
  exact Stage.not_first_of_covers getElem?_noun_rio (by decide) rio_covers_erio w hfirst

end Portuguese

end Desinence
