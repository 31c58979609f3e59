/-
What records mean.

`RuleParts.value` and `HeaderParts.value` are the rule and the header that parts
describe, whatever the length of their numerals. Reading a record gives this
value when the numeral that counts is within the limit, and otherwise the number
of its digits. In a text without long numerals reading therefore fails on
exactly the lines that do not fit the grammar.
-/
import Desinence.Proofs.Record.Grammar

set_option autoImplicit false

namespace Desinence

open Record

/-- The rule that the parts describe. -/
def RuleParts.value (p : RuleParts) : Rule :=
  ⟨p.suffix, p.numeral.decimalValue, p.replacement.getD [],
    quotedItems (p.exceptions.getD [])⟩

/-- The header that the parts describe. -/
def HeaderParts.value (p : HeaderParts) : Header :=
  ⟨p.name, p.minWord.decimalValue, p.flag == ['1'], quotedItems p.conditions⟩

/-! ## Parts with a numeral -/

/-- **What comes of parts that hold a numeral**: their value, if the numeral is
within the limit. Where there are no parts there is a fault of format. -/
def boundedValue {P α : Type} (numeral : P → Text) (value : P → α) (fault : RecordFault) :
    Option P → Except RecordFault α
  | none => .error fault
  | some p => (lengthOf (numeral p)).map fun _ => value p

section BoundedValue

variable {P α : Type} {numeral : P → Text} {value : P → α} {fault : RecordFault}

theorem boundedValue_of_le {p : P} (h : (numeral p).length ≤ numeralLimit) :
    boundedValue numeral value fault (some p) = .ok (value p) := by
  rw [boundedValue, lengthOf, if_pos h]
  rfl

theorem boundedValue_of_lt {p : P} (h : numeralLimit < (numeral p).length) :
    boundedValue numeral value fault (some p) = .error (.longNumeral (numeral p).length) := by
  rw [boundedValue, lengthOf, if_neg (Nat.not_le.2 h)]
  rfl

/-- There is a value if there are parts and their numeral is within the limit. -/
theorem boundedValue_eq_ok_iff {parts : Option P} {x : α} :
    boundedValue numeral value fault parts = .ok x ↔
      ∃ p, parts = some p ∧ (numeral p).length ≤ numeralLimit ∧ x = value p := by
  constructor
  · intro h
    cases parts with
    | none => simp [boundedValue] at h
    | some p =>
      by_cases hle : (numeral p).length ≤ numeralLimit
      · rw [boundedValue_of_le hle, Except.ok.injEq] at h
        exact ⟨p, rfl, hle, h.symm⟩
      · rw [boundedValue_of_lt (Nat.not_le.1 hle)] at h
        simp at h
  · rintro ⟨p, rfl, hle, rfl⟩
    exact boundedValue_of_le hle

/-- Otherwise there are no parts, or their numeral is too long. -/
theorem boundedValue_eq_error {parts : Option P} {f : RecordFault}
    (h : boundedValue numeral value fault parts = .error f) :
    (parts = none ∧ f = fault) ∨
      ∃ p, parts = some p ∧ numeralLimit < (numeral p).length ∧
        f = .longNumeral (numeral p).length := by
  cases parts with
  | none =>
    rw [boundedValue, Except.error.injEq] at h
    exact .inl ⟨rfl, h.symm⟩
  | some p =>
    by_cases hle : (numeral p).length ≤ numeralLimit
    · rw [boundedValue_of_le hle] at h
      simp at h
    · have hlt := Nat.not_le.1 hle
      rw [boundedValue_of_lt hlt, Except.error.injEq] at h
      exact .inr ⟨p, rfl, hlt, h.symm⟩

end BoundedValue

/-! ## Records -/

theorem readRule_eq (line : Text) :
    readRule line =
      boundedValue RuleParts.numeral RuleParts.value (.format .badRule line)
        (RuleParts.read? line) := by
  rw [readRule]
  cases RuleParts.read? line with
  | none => rfl
  | some p =>
    simp only [RuleParts.rule, boundedValue, lengthOf]
    split <;> rfl

theorem readHeader_eq (line : Text) :
    readHeader line =
      boundedValue HeaderParts.minWord HeaderParts.value (.format .badHeader line)
        (HeaderParts.read? line) := by
  rw [readHeader]
  cases HeaderParts.read? line with
  | none => rfl
  | some p =>
    simp only [HeaderParts.header, boundedValue, lengthOf]
    split <;> rfl

/-- **Reading a rule** gives the value of its parts. -/
theorem readRule_eq_ok_iff {line : Text} {r : Rule} :
    readRule line = .ok r ↔
      ∃ p, RuleRecord p line ∧ p.numeral.length ≤ numeralLimit ∧ r = p.value := by
  rw [readRule_eq, boundedValue_eq_ok_iff]
  exact exists_congr fun p => and_congr_left' RuleParts.read?_eq_some_iff

/-- **Reading a header** gives the value of its parts. -/
theorem readHeader_eq_ok_iff {line : Text} {h : Header} :
    readHeader line = .ok h ↔
      ∃ p, HeaderRecord p line ∧ p.minWord.length ≤ numeralLimit ∧ h = p.value := by
  rw [readHeader_eq, boundedValue_eq_ok_iff]
  exact exists_congr fun p => and_congr_left' HeaderParts.read?_eq_some_iff

/-- A rule record that cannot be read does not fit, or its numeral is long. -/
theorem readRule_eq_error {line : Text} {f : RecordFault} (h : readRule line = .error f) :
    ((∀ p, ¬ RuleRecord p line) ∧ f = .format .badRule line) ∨
      ∃ p, RuleRecord p line ∧ numeralLimit < p.numeral.length ∧
        f = .longNumeral p.numeral.length := by
  rw [readRule_eq] at h
  rcases boundedValue_eq_error h with ⟨hnone, hf⟩ | ⟨p, hp, hlt, hf⟩
  · exact .inl ⟨RuleParts.read?_eq_none_iff.1 hnone, hf⟩
  · exact .inr ⟨p, RuleParts.read?_eq_some_iff.1 hp, hlt, hf⟩

/-- A header record that cannot be read does not fit, or its numeral is long. -/
theorem readHeader_eq_error {line : Text} {f : RecordFault} (h : readHeader line = .error f) :
    ((∀ p, ¬ HeaderRecord p line) ∧ f = .format .badHeader line) ∨
      ∃ p, HeaderRecord p line ∧ numeralLimit < p.minWord.length ∧
        f = .longNumeral p.minWord.length := by
  rw [readHeader_eq] at h
  rcases boundedValue_eq_error h with ⟨hnone, hf⟩ | ⟨p, hp, hlt, hf⟩
  · exact .inl ⟨HeaderParts.read?_eq_none_iff.1 hnone, hf⟩
  · exact .inr ⟨p, HeaderParts.read?_eq_some_iff.1 hp, hlt, hf⟩

/-! ## Lines of a stage -/

/-- The record of a rule line, which may be the last one of its stage. -/
def ruleText (line : Text) : Text :=
  if endsStage line then withoutTerminator line else line

/-- **A rule line**: a rule record, perhaps with the terminator behind it. -/
def IsRuleLine (line : Text) : Prop :=
  ∃ p, RuleRecord p (ruleText line)

theorem looksLikeRule_iff {line : Text} : looksLikeRule line = true ↔ IsRuleLine line := by
  rw [looksLikeRule, Option.isSome_iff_exists]
  exact exists_congr fun p => RuleParts.read?_eq_some_iff

theorem ruleText_of_not_endsStage {line : Text} (h : endsStage line = false) :
    ruleText line = line := by
  rw [ruleText, h]
  rfl

theorem ruleText_of_endsStage {line : Text} (h : endsStage line = true) :
    ruleText line = withoutTerminator line := by
  rw [ruleText, h]
  rfl

theorem ruleText_isPrefix (line : Text) : ruleText line <+: line := by
  rw [ruleText]
  split
  · exact List.take_prefix _ _
  · exact List.prefix_rfl

/-! ## Texts without long numerals -/

theorem RuleRecord.numeral_isInfix {p : RuleParts} {line : Text} (h : RuleRecord p line) :
    p.numeral <:+: line := by
  obtain @⟨w₁, w₂, w₃, w₄, r, e, rest⟩ := h
  exact ⟨'{' :: w₁ ++ '"' :: p.suffix ++ '"' :: w₂ ++ ',' :: w₃,
    r ++ e ++ w₄ ++ '}' :: rest, by simp⟩

theorem HeaderRecord.minWord_isInfix {p : HeaderParts} {line : Text} (h : HeaderRecord p line) :
    p.minWord <:+: line := by
  obtain @⟨w₁, w₂, w₃, w₄, w₅, w₆, w₇, final⟩ := h
  exact ⟨'{' :: w₁ ++ '"' :: p.name ++ '"' :: w₂ ++ ',' :: w₃,
    w₄ ++ ',' :: w₅ ++ p.flag ++ w₆ ++ ',' :: w₇ ++ p.conditions ++ final, by simp⟩

theorem RuleRecord.isNumeral {p : RuleParts} {line : Text} (h : RuleRecord p line) :
    p.numeral.IsNumeral := by
  cases h
  assumption

theorem HeaderRecord.isNumeral_minWord {p : HeaderParts} {line : Text} (h : HeaderRecord p line) :
    p.minWord.IsNumeral := by
  cases h
  assumption

/-- In such a text the numeral of a rule is within the limit. -/
theorem RuleRecord.length_numeral_le {p : RuleParts} {line : Text} (h : RuleRecord p line)
    (hs : line.ShortNumerals) : p.numeral.length ≤ numeralLimit :=
  hs _ h.numeral_isInfix h.isNumeral.2

theorem HeaderRecord.length_minWord_le {p : HeaderParts} {line : Text} (h : HeaderRecord p line)
    (hs : line.ShortNumerals) : p.minWord.length ≤ numeralLimit :=
  hs _ h.minWord_isInfix h.isNumeral_minWord.2

end Desinence
