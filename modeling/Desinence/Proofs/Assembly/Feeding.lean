/-
Feeding lines to the assembly, those at fault among them.

A file is read up to its first line at fault. Here the assembly is fed on: such a
line leaves the standing as it was, and the next line meets the same. A turn is a
line with the standing that it meets. What it takes in is a header or a rule, what
it gives out is a stage, and the standing holds what was taken in and not given
out yet. The two sides of this account are equal for each turn, by the three ways
in which a line can be accepted (`Turn.cases`), and then for all turns together, by
one induction on the lines (`flatMap_turns_append`).
-/
import Mathlib.Data.List.Forall2
import Desinence.Proofs.Assembly.Step

set_option autoImplicit false

namespace Desinence

/-! ## Lists of what is there -/

/-- What a partial function finds in a list belongs, one by one, to the elements
on which it is defined. -/
theorem forall₂_filter_filterMap {α β : Type} (f : α → Option β) (xs : List α) :
    List.Forall₂ (fun x y => f x = some y) (xs.filter fun x => (f x).isSome) (xs.filterMap f) := by
  induction xs with
  | nil => exact .nil
  | cons x xs ih =>
    cases hx : f x with
    | none =>
      rw [List.filter_cons_of_neg (by simp [hx]), List.filterMap_cons_none hx]
      exact ih
    | some y =>
      rw [List.filter_cons_of_pos (by simp [hx]), List.filterMap_cons_some hx]
      exact .cons hx ih

/-! ## What is held -/

/-- The header of a stage. -/
def Stage.header (s : Stage) : Header :=
  ⟨s.name, s.minWord, s.wholeWord, s.conditions⟩

namespace Assembly

/-- The rules of a stage that is not complete. -/
def rules : Assembly → List Rule
  | between => []
  | inside _ rules => rules

/-- The header of a stage that is not complete. -/
def header? : Assembly → Option Header
  | between => none
  | inside h _ => some h

/-! ## Turns -/

/-- **A turn**: a line and the standing that it meets. -/
structure Turn where
  before : Assembly
  line : Text

namespace Turn

/-- The standing after the turn. A line at fault leaves it as it was. -/
def after (t : Turn) : Assembly :=
  match t.before.step t.line with
  | .ok (b, _) => b
  | .error _ => t.before

/-- The stage that the turn completes. -/
def completed (t : Turn) : Option Stage :=
  match t.before.step t.line with
  | .ok (_, stage) => stage
  | .error _ => none

/-- Whether the line is accepted inside a stage. -/
def takesRule (t : Turn) : Bool :=
  t.before.accepts t.line && t.before.isInside

/-- Whether the line is accepted between stages. -/
def takesHeader (t : Turn) : Bool :=
  t.before.accepts t.line && !t.before.isInside

/-- The rule that is taken in. -/
def rule? (t : Turn) : Option Rule :=
  if t.takesRule then (readRule (ruleText t.line)).toOption else none

/-- The header that is taken in. -/
def header? (t : Turn) : Option Header :=
  if t.takesHeader then (readHeader t.line).toOption else none

/-- **What a turn can be**: a line at fault, a header line, or a rule line, which
keeps its stage open or completes it. -/
theorem cases (t : Turn) :
    (t.before.accepts t.line = false ∧ t.after = t.before ∧ t.completed = none) ∨
    (∃ h, t.before = between ∧ t.before.accepts t.line = true ∧ readHeader t.line = .ok h ∧
      t.after = inside h [] ∧ t.completed = none) ∨
    ∃ h rules r, t.before = inside h rules ∧ t.before.accepts t.line = true ∧
      readRule (ruleText t.line) = .ok r ∧
      ((endsStage t.line = false ∧ t.after = inside h (rules ++ [r]) ∧ t.completed = none) ∨
        (endsStage t.line = true ∧ t.after = between ∧
          t.completed = some (h.stage (rules ++ [r])))) := by
  obtain ⟨a, line⟩ := t
  cases hs : a.step line with
  | error f =>
    refine .inl ⟨?_, ?_, ?_⟩
    · simp only [accepts, hs]
      rfl
    · simp only [after, hs]
    · simp only [completed, hs]
  | ok x =>
    have hacc : a.accepts line = true := accepts_iff.2 ⟨x.1, x.2, hs⟩
    have hafter : after ⟨a, line⟩ = x.1 := by simp only [after, hs]
    have hcompleted : completed ⟨a, line⟩ = x.2 := by simp only [completed, hs]
    cases a with
    | between =>
      obtain ⟨h, hr, hb, hc⟩ := step_between_eq_ok_iff.1 hs
      exact .inr (.inl ⟨h, rfl, hacc, hr, hafter.trans hb, hcompleted.trans hc⟩)
    | inside h rules =>
      obtain ⟨r, hr, hside⟩ := step_inside_eq_ok_iff.1 hs
      refine .inr (.inr ⟨h, rules, r, rfl, hacc, hr, ?_⟩)
      rw [hafter, hcompleted]
      exact hside

/-! ## The account of a turn -/

/-- **Rules**: those given out with a stage and those held behind the turn are
those held in front of it and the one taken in. -/
theorem rules_balance (t : Turn) :
    t.completed.toList.flatMap Stage.rules ++ t.after.rules = t.before.rules ++ t.rule?.toList := by
  rcases t.cases with ⟨ha, hb, hc⟩ | ⟨h, hfront, ha, -, hb, hc⟩ |
    ⟨h, rules, r, hfront, ha, hr, ⟨-, hb, hc⟩ | ⟨-, hb, hc⟩⟩
  · simp [rule?, takesRule, ha, hb, hc]
  · simp [rule?, takesRule, isInside, Assembly.rules, hfront, hb, hc]
  · rw [hfront] at ha
    simp [rule?, takesRule, isInside, Assembly.rules, hfront, ha, hr, hb, hc, Except.toOption]
  · rw [hfront] at ha
    simp [rule?, takesRule, isInside, Assembly.rules, hfront, ha, hr, hb, hc, Except.toOption,
      Header.stage]

/-- **Headers** have the same account. -/
theorem headers_balance (t : Turn) :
    t.completed.toList.map Stage.header ++ t.after.header?.toList
      = t.before.header?.toList ++ t.header?.toList := by
  rcases t.cases with ⟨ha, hb, hc⟩ | ⟨h, hfront, ha, hr, hb, hc⟩ |
    ⟨h, rules, r, hfront, ha, -, ⟨-, hb, hc⟩ | ⟨-, hb, hc⟩⟩
  · simp [header?, takesHeader, ha, hb, hc]
  · rw [hfront] at ha
    simp [header?, takesHeader, isInside, Assembly.header?, hfront, ha, hr, hb, hc,
      Except.toOption]
  · simp [header?, takesHeader, isInside, Assembly.header?, hfront, hb, hc]
  · simp [header?, takesHeader, isInside, Assembly.header?, hfront, hb, hc, Header.stage,
      Stage.header]

/-- A rule is taken in by every line that is accepted inside a stage. -/
theorem isSome_rule? (t : Turn) : t.rule?.isSome = t.takesRule := by
  rcases t.cases with ⟨ha, -, -⟩ | ⟨h, hfront, -⟩ | ⟨h, rules, r, -, -, hr, -⟩
  · simp [rule?, takesRule, ha]
  · simp [rule?, takesRule, isInside, hfront]
  · cases ht : t.takesRule <;> simp [rule?, ht, hr, Except.toOption]

/-- A header is taken in by every line that is accepted between stages. -/
theorem isSome_header? (t : Turn) : t.header?.isSome = t.takesHeader := by
  rcases t.cases with ⟨ha, -, -⟩ | ⟨h, -, -, hr, -⟩ | ⟨h, rules, r, hfront, -⟩
  · simp [header?, takesHeader, ha]
  · cases ht : t.takesHeader <;> simp [header?, ht, hr, Except.toOption]
  · simp [header?, takesHeader, isInside, hfront]

theorem readRule_of_rule? {t : Turn} {r : Rule} (h : t.rule? = some r) :
    readRule (ruleText t.line) = .ok r := by
  rw [rule?, Option.ite_none_right_eq_some] at h
  cases hr : readRule (ruleText t.line) with
  | error f => simp [hr, Except.toOption] at h
  | ok r' => simpa [hr, Except.toOption] using h.2

theorem readHeader_of_header? {t : Turn} {hd : Header} (h : t.header? = some hd) :
    readHeader t.line = .ok hd := by
  rw [header?, Option.ite_none_right_eq_some] at h
  cases hr : readHeader t.line with
  | error f => simp [hr, Except.toOption] at h
  | ok hd' => simpa [hr, Except.toOption] using h.2

/-- **A stage is completed** by a rule line with the terminator and by no other. -/
theorem isSome_completed (t : Turn) :
    t.completed.isSome = (t.takesRule && endsStage t.line) := by
  rcases t.cases with ⟨ha, -, hc⟩ | ⟨h, hfront, -, -, -, hc⟩ |
    ⟨h, rules, r, hfront, ha, -, ⟨he, -, hc⟩ | ⟨he, -, hc⟩⟩
  · simp [takesRule, ha, hc]
  · simp [takesRule, isInside, hfront, hc]
  · simp [he, hc]
  · rw [hfront] at ha
    simp [takesRule, isInside, hfront, ha, he, hc]

/-- A completed stage has the rule that completed it. -/
theorem rules_ne_nil_of_completed {t : Turn} {s : Stage} (h : t.completed = some s) :
    s.rules ≠ [] := by
  rcases t.cases with ⟨-, -, hc⟩ | ⟨hd, -, -, -, -, hc⟩ |
    ⟨hd, rules, r, -, -, -, ⟨-, -, hc⟩ | ⟨-, -, hc⟩⟩
  · simp [hc] at h
  · simp [hc] at h
  · simp [hc] at h
  · rw [hc, Option.some.injEq] at h
    simp [← h, Header.stage]

end Turn

/-! ## All turns -/

/-- **The turns of lines** that are fed one after the other. -/
def turns : Assembly → List Text → List Turn
  | _, [] => []
  | a, line :: rest => ⟨a, line⟩ :: turns (Turn.after ⟨a, line⟩) rest

/-- **The standing** after all lines. -/
def feed : Assembly → List Text → Assembly
  | a, [] => a
  | a, line :: rest => feed (Turn.after ⟨a, line⟩) rest

/-- **The stages** that are completed on the way. -/
def emitted (a : Assembly) (ls : List Text) : List Stage :=
  (a.turns ls).filterMap Turn.completed

/-- Every line has one turn. -/
theorem map_line_turns (a : Assembly) (ls : List Text) : (a.turns ls).map Turn.line = ls := by
  induction ls generalizing a with
  | nil => rfl
  | cons l ls ih => rw [turns, List.map_cons, ih]

/-- **An account that each turn keeps** is kept by all together: what is given out
and what is held at the end are what was held at the beginning and what is taken
in. -/
theorem flatMap_turns_append {α : Type} {out taken : Turn → List α} (held : Assembly → List α)
    (h : ∀ t : Turn, out t ++ held t.after = held t.before ++ taken t) (a : Assembly)
    (ls : List Text) :
    (a.turns ls).flatMap out ++ held (a.feed ls) = held a ++ (a.turns ls).flatMap taken := by
  induction ls generalizing a with
  | nil => simp [turns, feed]
  | cons l ls ih =>
    calc (a.turns (l :: ls)).flatMap out ++ held (a.feed (l :: ls))
        = out ⟨a, l⟩ ++ ((turns (Turn.after ⟨a, l⟩) ls).flatMap out
            ++ held (feed (Turn.after ⟨a, l⟩) ls)) := by
          rw [turns, feed, List.flatMap_cons, List.append_assoc]
      _ = out ⟨a, l⟩ ++ held (Turn.after ⟨a, l⟩)
            ++ (turns (Turn.after ⟨a, l⟩) ls).flatMap taken := by
          rw [ih, List.append_assoc]
      _ = held a ++ (a.turns (l :: ls)).flatMap taken := by
          rw [h, turns, List.flatMap_cons, List.append_assoc]

/-- No rule is lost, and none is added. -/
theorem rules_turns (a : Assembly) (ls : List Text) :
    (a.emitted ls).flatMap Stage.rules ++ (a.feed ls).rules
      = a.rules ++ (a.turns ls).filterMap Turn.rule? := by
  have h := flatMap_turns_append Assembly.rules Turn.rules_balance a ls
  rwa [← List.flatMap_assoc, ← List.filterMap_eq_flatMap_toList,
    ← List.filterMap_eq_flatMap_toList] at h

/-- No header is lost, and none is added. -/
theorem headers_turns (a : Assembly) (ls : List Text) :
    (a.emitted ls).map Stage.header ++ (a.feed ls).header?.toList
      = a.header?.toList ++ (a.turns ls).filterMap Turn.header? := by
  have h := flatMap_turns_append (fun b => b.header?.toList) Turn.headers_balance a ls
  rwa [← List.map_flatMap, ← List.filterMap_eq_flatMap_toList,
    ← List.filterMap_eq_flatMap_toList] at h

/-- **Nothing is lost, doubled or put elsewhere**, whatever lines are fed from
between stages on. The rules of the completed stages and then those of the open one
are what the lines accepted inside a stage say, one each and in their order. The
headers of the same stages are what the lines accepted between stages say. A stage
is completed by a line that is accepted inside a stage and ends with the
terminator, and by no other line, and it has a rule. -/
theorem feed_conserves (ls : List Text) :
    (between.turns ls).map Turn.line = ls ∧
    List.Forall₂ (fun t r => readRule (ruleText t.line) = .ok r)
      ((between.turns ls).filter Turn.takesRule)
      ((between.emitted ls).flatMap Stage.rules ++ (between.feed ls).rules) ∧
    List.Forall₂ (fun t h => readHeader t.line = .ok h)
      ((between.turns ls).filter Turn.takesHeader)
      ((between.emitted ls).map Stage.header ++ (between.feed ls).header?.toList) ∧
    (∀ t ∈ between.turns ls, t.completed.isSome = (t.takesRule && endsStage t.line)) ∧
    ∀ s ∈ between.emitted ls, s.rules ≠ [] := by
  refine ⟨map_line_turns _ ls, ?_, ?_, fun t _ => t.isSome_completed, fun s hs => ?_⟩
  · have hall := forall₂_filter_filterMap Turn.rule? (between.turns ls)
    simp only [Turn.isSome_rule?] at hall
    rw [rules_turns]
    exact hall.imp fun t r h => Turn.readRule_of_rule? h
  · have hall := forall₂_filter_filterMap Turn.header? (between.turns ls)
    simp only [Turn.isSome_header?] at hall
    rw [headers_turns]
    exact hall.imp fun t h ht => Turn.readHeader_of_header? ht
  · obtain ⟨t, -, ht⟩ := List.mem_filterMap.1 hs
    exact Turn.rules_ne_nil_of_completed ht

/-- A rule without a stage, a stage with a header and a bad rule in its midst, and a
stage that stays open. -/
theorem feed_conserves_through_faults :
    let rule : Text := "\x7b\"s\",1\x7d".toList
    let last : Text := "\x7b\"t\",2\x7d\x7d;".toList
    let header : Text := "\x7b\"A\",0,0,\x7b\x7d,".toList
    let ls : List Text := [rule, header, rule, header, ['x'], last, header, rule]
    let hd : Header := ⟨['A'], 0, false, []⟩
    let r : Rule := ⟨['s'], 1, [], []⟩
    let stage : Stage := ⟨['A'], 0, false, [], [r, ⟨['t'], 2, [], []⟩]⟩
    between.emitted ls = [stage] ∧ between.feed ls = inside hd [r] ∧
      ⟨inside hd [r], last⟩ ∈ between.turns ls ∧
      (Turn.completed ⟨inside hd [r], last⟩).isSome = true ∧ stage.rules ≠ [] := by
  intro rule last header ls hd r stage
  have hout : between.emitted ls = [stage] := by rfl
  have hturn : ⟨inside hd [r], last⟩ ∈ between.turns ls := by
    have hturns : (between.turns ls)[5]? = some ⟨inside hd [r], last⟩ := by rfl
    exact List.mem_of_getElem? hturns
  obtain ⟨-, -, -, hlast, hne⟩ := feed_conserves ls
  refine ⟨hout, by rfl, hturn, (hlast _ hturn).trans (by rfl), hne stage ?_⟩
  rw [hout]
  exact List.mem_singleton_self stage

end Assembly

end Desinence
