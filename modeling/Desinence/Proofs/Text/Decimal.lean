/-
Numerals and the numbers they spell.

A number is written without leading zeros, and reading what was written gives
the number back. The limit on the digits of a numeral is a limit on its number:
a numeral of `k` digits spells a number below `10 ^ k`, and a number below that
is written with at most `k` digits. `ShortNumerals` is the same limit for a
whole text, on every run of digits in it.
-/
import Mathlib.Algebra.Group.Nat.Defs
import Mathlib.Data.List.Induction
import Desinence.Text.Decimal
import Desinence.Proofs.Text.Lines

set_option autoImplicit false

namespace Desinence

/-- The digits here are those of the standard library. -/
theorem isDigit_eq (c : Char) : isDigit c = c.isDigit := by
  simp [isDigit, Char.isDigit, Char.le_def]

/-- The digits by their code points. -/
theorem isDigit_iff {c : Char} : isDigit c = true ↔ 48 ≤ c.toNat ∧ c.toNat ≤ 57 := by
  rw [isDigit, Bool.and_eq_true, decide_eq_true_eq, decide_eq_true_eq, Char.le_def, Char.le_def,
    UInt32.le_iff_toNat_le, UInt32.le_iff_toNat_le]
  exact Iff.rfl

namespace Text

/-- A numeral as a text: digits, at least one. -/
def IsNumeral (t : Text) : Prop :=
  t ≠ [] ∧ ∀ c ∈ t, isDigit c = true

instance (t : Text) : Decidable t.IsNumeral :=
  haveI := List.decidableBAll (isDigit · = true) t
  inferInstanceAs (Decidable (t ≠ [] ∧ _))

/-- A text that does not begin with a digit. -/
def NoDigit (t : Text) : Prop :=
  ∀ c ∈ t.head?, isDigit c = false

/-- **A text without long numerals**: no run of digits in it is longer than a
numeral may be. -/
def ShortNumerals (t : Text) : Prop :=
  ∀ run, run <:+: t → (∀ c ∈ run, isDigit c = true) → run.length ≤ numeralLimit

/-- A stretch of such a text is one. -/
theorem ShortNumerals.of_isInfix {s t : Text} (ht : t.ShortNumerals) (h : s <:+: t) :
    s.ShortNumerals := by
  intro run hrun hd
  exact ht run (hrun.trans h) hd

/-! ## Writing -/

theorem ofNat_ne_nil (n : Nat) : ofNat n ≠ [] :=
  Nat.toDigits_ne_nil

theorem isDigit_of_mem_ofNat {n : Nat} {c : Char} (h : c ∈ ofNat n) : isDigit c = true := by
  rw [isDigit_eq]
  exact Nat.isDigit_of_mem_toDigits (by omega) (by omega) h

theorem oneLine_ofNat (n : Nat) : OneLine (ofNat n) := by
  intro c hc
  have hd := isDigit_iff.1 (isDigit_of_mem_ofNat hc)
  simp only [isLineEnd, Bool.or_eq_false_iff, Bool.and_eq_false_iff, decide_eq_false_iff_not,
    beq_eq_false_iff_ne, ne_eq]
  omega

theorem isNumeral_ofNat (n : Nat) : (ofNat n).IsNumeral :=
  ⟨ofNat_ne_nil n, fun _ hc => isDigit_of_mem_ofNat hc⟩

/-- **Reading what was written** gives the number back. -/
theorem decimalValue_ofNat (n : Nat) : (ofNat n).decimalValue = n :=
  Nat.ofDigitChars_ten_toDigits

/-- Numbers below a power of ten are written with no more digits than that. -/
theorem length_ofNat_le {n k : Nat} (hk : 0 < k) (h : n < 10 ^ k) : (ofNat n).length ≤ k :=
  (Nat.length_toDigits_le_iff (by omega) hk).2 h

/-! ## Reading -/

theorem digitValue_lt {c : Char} (h : isDigit c = true) : digitValue c < 10 := by
  obtain ⟨-, h9⟩ := isDigit_iff.1 h
  have h0 : ('0').toNat = 48 := rfl
  rw [digitValue, h0]
  omega

/-- A numeral spells a number below the power of ten of its length. -/
theorem decimalValue_lt {t : Text} (h : ∀ c ∈ t, isDigit c = true) :
    t.decimalValue < 10 ^ t.length := by
  -- Digits are read from the front, so the induction takes the last one off.
  induction t using List.reverseRecOn with
  | nil => simp [decimalValue]
  | append_singleton t c ih =>
    have ht := ih fun d hd => h d (List.mem_append_left _ hd)
    have hc := digitValue_lt (h c (by simp))
    rw [decimalValue] at ht ⊢
    rw [List.foldl_append, List.length_append, List.length_singleton, Nat.pow_succ]
    simp only [List.foldl_cons, List.foldl_nil]
    omega

end Text

end Desinence
