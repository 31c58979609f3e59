/-
The shortest decimal of a binary number.

The reals that are rounded to a binary number form an interval: it reaches
halfway to the neighbours on both sides, and its ends belong to it if the
significand is even. A decimal identifies the number if it lies in there. Of the
decimals that do, those with the fewest digits are sought, and of these the one
nearest to the number, the even one of two that are equally near.

It is the decimal that `repr` shows of a `float`.
-/
import Desinence.Number.Binary64
import Desinence.Text.Decimal

set_option autoImplicit false

namespace Desinence

/-- **A decimal**: `digits · 10 ^ exponent`. -/
structure Decimal where
  digits : Nat
  exponent : Int
  deriving Repr, DecidableEq

namespace Decimal

/-- How a decimal compares with `n · 2 ^ e`. -/
def compareBinary (d : Decimal) (n : Nat) (e : Int) : Ordering :=
  compare (scaleUp 2 (scaleUp 10 d.digits d.exponent) (-e))
    (scaleUp 10 (scaleUp 2 n e) (-d.exponent))

/-- **Whether a decimal is rounded to** `m · 2 ^ e`. Below a power of two the next
number is only half as far away. -/
def isRoundedTo (m : Nat) (e : Int) (d : Decimal) : Bool :=
  let narrow := m == Binary64.significands / 2 && Binary64.leastExponent < e
  let low := d.compareBinary (if narrow then 4 * m - 1 else 4 * m - 2) (e - 2)
  let high := d.compareBinary (4 * m + 2) (e - 2)
  let even := m % 2 == 0
  (low == .gt || (even && low == .eq)) && (high == .lt || (even && high == .eq))

/-- The exponent of the first digit of a quotient other than zero: the greatest
power of ten that is not above it. -/
def leadingExponent (num den : Nat) : Int :=
  if den ≤ num then (Text.ofNat (num / den)).length - 1
  else -((Text.ofNat ((den - 1) / num)).length : Int)

/-- Of the two neighbours of `num / den` on the grid of a power of ten, the one
that is rounded to `m · 2 ^ e`, if there is one; if both are, the nearer. -/
def onGrid? (m : Nat) (e : Int) (num den : Nat) (grid : Int) : Option Decimal :=
  let num := scaleUp 10 num (-grid)
  let den := scaleUp 10 den grid
  let below : Decimal := ⟨num / den, grid⟩
  let above : Decimal := ⟨num / den + 1, grid⟩
  match below.isRoundedTo m e, above.isRoundedTo m e with
  | true, true => some ⟨Binary64.roundQuotient num den, grid⟩
  | true, false => some below
  | false, true => some above
  | false, false => none

/-- **The shortest decimal of** `m · 2 ^ e`, where `m` is not zero. Seventeen
digits are always enough; were they not, all digits would be given. -/
def shortest (m : Nat) (e : Int) : Decimal :=
  let num := scaleUp 2 m e
  let den := scaleUp 2 1 (-e)
  let first := leadingExponent num den
  match (List.range 17).findSome? fun (n : Nat) => onGrid? m e num den (first - n) with
  | some d => d
  | none => ⟨scaleUp 5 num (-e), min e 0⟩

/-- The digits of a decimal without zeros at the end, and the exponent of the first
of them. -/
def significant (d : Decimal) : Text × Int :=
  let t := Text.ofNat d.digits
  ((t.reverse.dropWhile (· == '0')).reverse, t.length - 1 + d.exponent)

/-! ## Small facts -/

/-- **What is found on a grid is rounded to the number** for which it was sought. -/
theorem isRoundedTo_of_onGrid? {m num den : Nat} {e grid : Int} {d : Decimal}
    (h : onGrid? m e num den grid = some d) : d.isRoundedTo m e = true := by
  unfold onGrid? at h
  simp only at h
  split at h
  next hb ha =>
    obtain rfl := Option.some.inj h
    rcases Binary64.roundQuotient_eq_or (scaleUp 10 num (-grid)) (scaleUp 10 den grid) with hq | hq
    · rw [hq]; exact hb
    · rw [hq]; exact ha
  next hb _ => exact Option.some.inj h ▸ hb
  next _ ha => exact Option.some.inj h ▸ ha
  next => exact absurd h (by simp)

end Decimal

end Desinence
