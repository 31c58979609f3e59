/-
What one line can do to the assembly.

Between stages a line is accepted exactly if it reads as a header, since no
header looks like a rule. Inside a stage it is accepted exactly if its rule text
reads as a rule, and the terminator alone decides whether the stage goes on. In
a line without long numerals every fault is one of format, and which one follows
from where the assembly stands and whether the line is a rule line.
-/
import Desinence.Assembly
import Desinence.Proofs.Record.Value

set_option autoImplicit false

namespace Desinence

namespace Assembly

/-! ## Accepted lines -/

/-- **Between stages** a line that reads as a header opens a stage, and no other
line is accepted. -/
theorem step_between_eq_ok_iff {line : Text} {b : Assembly} {completed : Option Stage} :
    between.step line = .ok (b, completed) ↔
      ∃ h, readHeader line = .ok h ∧ b = inside h [] ∧ completed = none := by
  constructor
  · intro hs
    rw [step] at hs
    split at hs
    · simp at hs
    · cases hr : readHeader line with
      | error f => simp [hr] at hs
      | ok h =>
        simp only [hr, Except.map_ok, Except.ok.injEq, Prod.mk.injEq] at hs
        exact ⟨h, rfl, hs.1.symm, hs.2.symm⟩
  · rintro ⟨h, hr, rfl, rfl⟩
    obtain ⟨p, hp, -, -⟩ := readHeader_eq_ok_iff.1 hr
    rw [step, hp.looksLikeRule_eq_false, hr]
    rfl

/-- Inside a stage the rule of the line is read, and the terminator decides what
becomes of the stage. -/
theorem step_inside (h : Header) (rules : List Rule) (line : Text) :
    (inside h rules).step line =
      (readRule (ruleText line)).map fun r =>
        if endsStage line then (between, some (h.stage (rules ++ [r])))
        else (inside h (rules ++ [r]), none) := by
  cases he : endsStage line with
  | false =>
    rw [ruleText_of_not_endsStage he, step, he]
    rfl
  | true =>
    rw [ruleText_of_endsStage he, step, he]
    rfl

/-- **Inside a stage** a rule line adds its rule, and completes the stage if it
ends with the terminator. -/
theorem step_inside_eq_ok_iff {h : Header} {rules : List Rule} {line : Text} {b : Assembly}
    {completed : Option Stage} :
    (inside h rules).step line = .ok (b, completed) ↔
      ∃ r, readRule (ruleText line) = .ok r ∧
        ((endsStage line = false ∧ b = inside h (rules ++ [r]) ∧ completed = none) ∨
          (endsStage line = true ∧ b = between ∧ completed = some (h.stage (rules ++ [r])))) := by
  rw [step_inside]
  cases readRule (ruleText line) with
  | error f => simp [Except.map]
  | ok r => cases endsStage line <;> simp [Except.map, eq_comm]

/-! ## Acceptance -/

/-- Whether reading stands inside a stage. -/
def isInside : Assembly → Bool
  | between => false
  | inside _ _ => true

/-- Whether a line is accepted where reading stands. -/
def accepts (a : Assembly) (line : Text) : Bool :=
  (a.step line).isOk

theorem accepts_iff {a : Assembly} {line : Text} :
    a.accepts line = true ↔ ∃ b completed, a.step line = .ok (b, completed) := by
  rw [accepts]
  cases h : a.step line with
  | error f => simp [Except.isOk, Except.toBool]
  | ok x => exact ⟨fun _ => ⟨x.1, x.2, rfl⟩, fun _ => rfl⟩

/-! ## Lines at fault -/

/-- Between stages a rule line has no owner, and any other line at fault is not
the header it should be. -/
theorem step_between_eq_error {line : Text} {f : RecordFault} (h : between.step line = .error f) :
    (IsRuleLine line ∧ f = .format .ownerlessRule line) ∨
      (¬ IsRuleLine line ∧ readHeader line = .error f) := by
  rw [step] at h
  split at h
  next hl =>
    rw [Except.error.injEq] at h
    exact .inl ⟨looksLikeRule_iff.1 hl, h.symm⟩
  next hl =>
    refine .inr ⟨fun hr => hl (looksLikeRule_iff.2 hr), ?_⟩
    cases hr : readHeader line with
    | error f' => simpa [hr] using h
    | ok hd => simp [hr] at h

/-- Inside a stage a line at fault is not the rule it should be. -/
theorem step_inside_eq_error {h : Header} {rules : List Rule} {line : Text} {f : RecordFault}
    (hs : (inside h rules).step line = .error f) : readRule (ruleText line) = .error f := by
  rw [step_inside] at hs
  cases hr : readRule (ruleText line) with
  | error f' =>
    rw [hr, Except.map, Except.error.injEq] at hs
    rw [hs]
  | ok r =>
    rw [hr, Except.map] at hs
    simp at hs

/-- **Without long numerals** every fault is one of format. -/
theorem exists_format_of_step_eq_error {a : Assembly} {line : Text} {f : RecordFault}
    (hs : line.ShortNumerals) (h : a.step line = .error f) :
    ∃ reason text, f = .format reason text := by
  cases a with
  | between =>
    rcases step_between_eq_error h with ⟨-, rfl⟩ | ⟨-, hr⟩
    · exact ⟨_, _, rfl⟩
    · rcases readHeader_eq_error hr with ⟨-, rfl⟩ | ⟨p, hp, hlt, -⟩
      · exact ⟨_, _, rfl⟩
      · exact absurd (hp.length_minWord_le hs) (Nat.not_le.2 hlt)
  | inside hd rules =>
    rcases readRule_eq_error (step_inside_eq_error h) with ⟨-, rfl⟩ | ⟨p, hp, hlt, -⟩
    · exact ⟨_, _, rfl⟩
    · have hshort := hs.of_isInfix (ruleText_isPrefix line).isInfix
      exact absurd (hp.length_numeral_le hshort) (Nat.not_le.2 hlt)

end Assembly

end Desinence
