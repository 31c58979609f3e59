/-
One more exception.

An exception takes a rule away from the words it names and from no others. For a word
it does not name, the rule applies as it did before and does the same, so nothing has
changed in the stage, nor in the stages behind it. For a word it names, the rule might
as well not be there: it stands in the list, but the search goes past it.

Both are cases of what a stage makes of a rule put in another's place. `apply_setRule_congr`
covers a rule that applies to the same words, `apply_setRule_of_not_applicable` one that
does not apply.
-/
import Desinence.Proofs.Stemmer.Firing

set_option autoImplicit false

namespace Desinence

/-! ## A rule with other exceptions -/

namespace Rule

/-- The rule with other exceptions. -/
def withExceptions (r : Rule) (es : List Text) : Rule :=
  { r with exceptions := es }

variable {r : Rule} {e : Text} {es : List Text} {whole : Bool} {w : Text}

theorem apply_withExceptions (r : Rule) (es : List Text) (w : Text) :
    (r.withExceptions es).apply w = r.apply w := rfl

/-- **One exception more**, wherever in the list, takes the words away that it names. -/
theorem applicable_withExceptions_iff (hes : es.Perm (e :: r.exceptions)) :
    (r.withExceptions es).Applicable whole w ↔ r.Applicable whole w ∧ ¬e.Names whole w := by
  have hvetoes : (∀ x ∈ es, ¬x.Names whole w) ↔
      ¬e.Names whole w ∧ ∀ x ∈ r.exceptions, ¬x.Names whole w := by
    simp only [hes.mem_iff, List.forall_mem_cons]
  constructor
  · rintro ⟨hsuffix, hexceptions, hstem⟩
    obtain ⟨he, hold⟩ := hvetoes.1 hexceptions
    exact ⟨⟨hsuffix, hold, hstem⟩, he⟩
  · rintro ⟨⟨hsuffix, hold, hstem⟩, he⟩
    exact ⟨hsuffix, hvetoes.2 ⟨he, hold⟩, hstem⟩

end Rule

/-! ## A rule in another's place -/

namespace Stage

/-- The stage with another rule in place `j`. -/
def setRule (s : Stage) (j : Nat) (r : Rule) : Stage :=
  s.withRules (s.rules.set j r)

/-- The stage without the rule in place `j`. -/
def eraseRule (s : Stage) (j : Nat) : Stage :=
  s.withRules (s.rules.eraseIdx j)

variable {s : Stage} {w : Text} {r r' : Rule} {j : Nat}

theorem setRule_self (hr : s.rules[j]? = some r) : s.setRule j r = s := by
  obtain ⟨hj, rfl⟩ := List.getElem?_eq_some_iff.1 hr
  rw [setRule, List.set_getElem_self]
  rfl

theorem firing_cons_of_applicable {rs : List Rule} (h : r.Applicable s.wholeWord w) :
    (s.withRules (r :: rs)).firing w = some r :=
  List.find?_cons_of_pos (Rule.applicable_iff.1 h)

theorem firing_cons_of_not_applicable {rs : List Rule} (h : ¬r.Applicable s.wholeWord w) :
    (s.withRules (r :: rs)).firing w = (s.withRules rs).firing w :=
  List.find?_cons_of_neg (mt Rule.applicable_iff.2 h)

theorem firing_withRules_append (s : Stage) (front back : List Rule) (w : Text) :
    (s.withRules (front ++ back)).firing w =
      ((s.withRules front).firing w).or ((s.withRules back).firing w) := by
  rw [firing_withRules, firing_withRules, firing_withRules, List.find?_append]

/-- The rules in front come first, then the one in place `j` with those behind it. -/
theorem firing_setRule (hj : j < s.rules.length) (r : Rule) (w : Text) :
    (s.setRule j r).firing w = ((s.withRules (s.rules.take j)).firing w).or
      ((s.withRules (r :: s.rules.drop (j + 1))).firing w) := by
  rw [setRule, List.set_eq_take_append_cons_drop, if_pos hj, firing_withRules_append]

/-- **A rule that does not apply might as well not be there.** -/
theorem apply_setRule_of_not_applicable (hj : j < s.rules.length)
    (h : ¬r.Applicable s.wholeWord w) : (s.setRule j r).apply w = (s.eraseRule j).apply w := by
  have hfiring : (s.setRule j r).firing w = (s.eraseRule j).firing w := by
    rw [firing_setRule hj, firing_cons_of_not_applicable h, eraseRule,
      List.eraseIdx_eq_take_drop_succ, firing_withRules_append]
  exact apply_withRules_congr hfiring

/-- **Two rules that apply alike and do the same** may stand in each other's place. -/
theorem apply_setRule_congr (hj : j < s.rules.length)
    (happlicable : r'.Applicable s.wholeWord w ↔ r.Applicable s.wholeWord w)
    (happly : r'.apply w = r.apply w) : (s.setRule j r').apply w = (s.setRule j r).apply w := by
  by_cases h : r.Applicable s.wholeWord w
  · have hfiring : ((s.setRule j r').firing w).map (fun q => q.apply w) =
        ((s.setRule j r).firing w).map fun q => q.apply w := by
      rw [firing_setRule hj, firing_setRule hj, firing_cons_of_applicable h,
        firing_cons_of_applicable (happlicable.2 h)]
      -- A rule in front is the first with both; else it is their turn.
      cases (s.withRules (s.rules.take j)).firing w with
      | some q => rfl
      | none => exact congrArg some happly
    exact apply_withRules_congr_map hfiring
  · rw [apply_setRule_of_not_applicable hj h,
      apply_setRule_of_not_applicable hj (mt happlicable.1 h)]

end Stage

/-! ## A stage in another's place -/

/-- A run with another stage in place `k` is the run to that place, that stage, and the
run from there. -/
theorem Table.run_set {t : Table} {k : Nat} (hk : k < t.length) (s : Stage) (w : Text) :
    Table.run (t.set k s) w = Table.run (t.drop (k + 1)) (s.apply (Table.run (t.take k) w)) := by
  rw [List.set_eq_take_append_cons_drop, if_pos hk, run, List.foldl_append, List.foldl_cons]
  rfl

namespace Stemmer

variable {t : Table} {k : Nat}

/-- The stages in front hand on the same word. -/
theorem through_set (t : Table) (k : Nat) (s : Stage) (removeAccents : Bool) (w : Text) :
    (Stemmer.mk (t.set k s) removeAccents).through k w =
      (Stemmer.mk t removeAccents).through k w := by
  rw [through, through, List.take_set_of_le (Nat.le_refl k)]

/-- **Two stages that do the same to the word that reaches them** may stand in each
other's place. -/
theorem stem_set_congr (hk : k < t.length) {s s' : Stage} {removeAccents : Bool} {w : Text}
    (h : s'.apply ((Stemmer.mk t removeAccents).through k w) =
      s.apply ((Stemmer.mk t removeAccents).through k w)) :
    (Stemmer.mk (t.set k s') removeAccents).stem w =
      (Stemmer.mk (t.set k s) removeAccents).stem w := by
  by_cases hw : w = []
  · rw [hw, stem_nil, stem_nil]
  · rw [through_of_ne_nil k hw] at h
    refine stem_of_run_eq ?_ removeAccents
    rw [Table.run_set hk, Table.run_set hk, h]

end Stemmer

/-- **An exception concerns the words that it names.** Let a rule of a stage have one
exception more. The stages in front hand on the same word as before. If the exception
does not name that word, the stem is the same, as it is for the empty text, which no
stage sees. If it does, then the stage does to it what it would do without the rule. -/
theorem effect_of_exception {t : Table} {k j : Nat} {s : Stage} {r : Rule} {e : Text}
    {es : List Text} (hs : t[k]? = some s) (hr : s.rules[j]? = some r)
    (hes : es.Perm (e :: r.exceptions)) (removeAccents : Bool) (w : Text) :
    let edited := s.setRule j (r.withExceptions es)
    let before : Stemmer := ⟨t, removeAccents⟩
    let after : Stemmer := ⟨t.set k edited, removeAccents⟩
    let u := before.through k w
    after.through k w = u ∧
      (w = [] ∨ ¬e.Names s.wholeWord u → after.stem w = before.stem w) ∧
      (e.Names s.wholeWord u → edited.apply u = (s.eraseRule j).apply u) := by
  intro edited before after u
  obtain ⟨hk, hsk⟩ := List.getElem?_eq_some_iff.1 hs
  obtain ⟨hj, -⟩ := List.getElem?_eq_some_iff.1 hr
  refine ⟨Stemmer.through_set t k edited removeAccents w, fun hunnamed => ?_, fun hnames => ?_⟩
  · obtain rfl | hnot := hunnamed
    · rw [Stemmer.stem_nil, Stemmer.stem_nil]
    · have hstage : edited.apply u = s.apply u := by
        have happlicable : (r.withExceptions es).Applicable s.wholeWord u ↔
            r.Applicable s.wholeWord u := by
          rw [Rule.applicable_withExceptions_iff hes, and_iff_left hnot]
        rw [← Stage.setRule_self hr]
        exact Stage.apply_setRule_congr hj happlicable (Rule.apply_withExceptions r es u)
      have hsame : t.set k s = t := by rw [← hsk, List.set_getElem_self]
      have hstem : after.stem w = (Stemmer.mk (t.set k s) removeAccents).stem w :=
        Stemmer.stem_set_congr hk hstage
      rwa [hsame] at hstem
  · have hnot : ¬(r.withExceptions es).Applicable s.wholeWord u := fun happlicable =>
      ((Rule.applicable_withExceptions_iff hes).1 happlicable).2 hnames
    exact Stage.apply_setRule_of_not_applicable hj hnot

/-- The second stage has an exception more for its first rule, behind the one that was
there. The first stage hands on two words: on the one the exception names the second rule
gets its turn, and the stem of the other is what it was. -/
theorem effect_of_exception_diminutive :
    let plural : Stage := ⟨"Plural".toList, 3, false, [], [⟨['s'], 2, [], []⟩]⟩
    let inho : Rule := ⟨"inho".toList, 2, [], ["caminho".toList]⟩
    let noun : Stage := ⟨"Noun".toList, 3, false, [], [inho, ⟨['o'], 3, [], []⟩]⟩
    let es := ["caminho".toList, "vizinho".toList]
    let edited := noun.setRule 0 (inho.withExceptions es)
    let before : Stemmer := ⟨[plural, noun], false⟩
    let after : Stemmer := ⟨[plural, edited], false⟩
    es.Perm ("vizinho".toList :: inho.exceptions) ∧
      after.through 1 "Vizinhos".toList = "vizinho".toList ∧
      noun.apply "vizinho".toList = "viz".toList ∧
      edited.apply "vizinho".toList = "vizinh".toList ∧
      before.stem "Livrinhos".toList = "livr".toList ∧
      after.stem "Livrinhos".toList = "livr".toList := by
  intro plural inho noun es edited before after
  have hes : es.Perm ("vizinho".toList :: inho.exceptions) := List.Perm.swap _ _ _
  have hvizinho : before.through 1 "Vizinhos".toList = "vizinho".toList := by
    decide +kernel
  have hlivrinho : before.through 1 "Livrinhos".toList = "livrinho".toList := by
    decide +kernel
  have hwithout : (noun.eraseRule 0).apply "vizinho".toList = "vizinh".toList := by decide
  have hlivr : before.stem "Livrinhos".toList = "livr".toList := by decide +kernel
  have heffect := @effect_of_exception [plural, noun] 1 0 noun inho "vizinho".toList es rfl rfl hes
    false
  obtain ⟨hreaches, -, hnamed⟩ := heffect "Vizinhos".toList
  obtain ⟨-, hunnamed, -⟩ := heffect "Livrinhos".toList
  rw [hvizinho] at hreaches hnamed
  rw [hlivrinho] at hunnamed
  exact ⟨hes, hreaches, by decide, (hnamed (by decide)).trans hwithout, hlivr,
    (hunnamed (.inr (by decide))).trans hlivr⟩

end Desinence
