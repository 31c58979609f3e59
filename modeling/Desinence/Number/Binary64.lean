/-
Binary numbers of 64 bits.

A finite number is a whole significand times a power of two. The significand has
53 bits; only below the least normal number may it have fewer, and there the
exponent is the least one. Every decimal lies nearest to one such number, the one
with the even significand if it lies halfway between two, unless it is so large
that it counts as infinite.

`ofDecimal` is what `float` makes of a numeral.
-/
set_option autoImplicit false

namespace Desinence

/-- `n · base ^ e` if the exponent is positive, and `n` itself if it is not. A quotient
`n / d` is multiplied by a power when `n` is scaled by it and `d` by its inverse. -/
def scaleUp (base n : Nat) (e : Int) : Nat :=
  n * Nat.pow base e.toNat

/-- **A binary number**: `significand · 2 ^ exponent` under a sign, or one of the
values that are no finite number. -/
inductive Binary64
  | finite (negative : Bool) (significand : Nat) (exponent : Int)
  | infinite (negative : Bool)
  | nan
  deriving Repr, DecidableEq

namespace Binary64

/-- The exponent of the numbers nearest to zero. -/
def leastExponent : Int := -1074

/-- The exponent of the largest numbers. -/
def greatestExponent : Int := 971

/-- The number of significands. -/
def significands : Nat := Nat.pow 2 53

/-- Zero, which has a sign too. -/
def zero (negative : Bool) : Binary64 :=
  .finite negative 0 leastExponent

/-- The whole number nearest to a quotient, the even one of two that are equally
near. -/
def roundQuotient (num den : Nat) : Nat :=
  let q := num / den
  let twice := 2 * (num % den)
  if twice < den then q else if den < twice then q + 1 else q + q % 2

/-- The exponent under which a quotient other than zero has a significand of 53
bits, or the least exponent if that is greater. -/
def exponentOf (num den : Nat) : Int :=
  let n : Int := num.log2 - den.log2
  let above := scaleUp 2 den n ≤ scaleUp 2 num (-n)
  max (if above then n - 52 else n - 53) leastExponent

/-- The number with a significand that may have come out one too large, and with
an exponent that may be too great. -/
def assemble (negative : Bool) (significand : Nat) (exponent : Int) : Binary64 :=
  let (significand, exponent) :=
    if significand = significands then (significands / 2, exponent + 1)
    else (significand, exponent)
  if greatestExponent < exponent then .infinite negative
  else .finite negative significand exponent

/-- **The number nearest to a quotient.** -/
def ofQuotient (negative : Bool) (num den : Nat) : Binary64 :=
  if num = 0 then zero negative
  else
    let e := exponentOf num den
    assemble negative (roundQuotient (scaleUp 2 num (-e)) (scaleUp 2 den e)) e

/-- **The number nearest to the decimal** `digits · 10 ^ exponent`. A decimal that
is far too large or too small is settled by its exponent alone. -/
def ofDecimal (negative : Bool) (digits : Nat) (exponent : Int) : Binary64 :=
  if digits = 0 then zero negative
  else if 400 < exponent then .infinite negative
  else if exponent < -400 - digits.log2 then zero negative
  else ofQuotient negative (scaleUp 10 digits exponent) (scaleUp 10 1 (-exponent))


/-! ## Small facts -/

/-- The rounded quotient is within half a unit of the exact one. -/
theorem roundQuotient_near (num den : Nat) (h : 0 < den) :
    2 * (roundQuotient num den * den) ≤ 2 * num + den ∧
      2 * num ≤ 2 * (roundQuotient num den * den) + den := by
  have hdiv : den * (num / den) + num % den = num := Nat.div_add_mod num den
  have hlt : num % den < den := Nat.mod_lt _ h
  unfold roundQuotient
  generalize num / den = q at *
  generalize num % den = r at *
  have hq : q * den = den * q := Nat.mul_comm ..
  have hq1 : (q + 1) * den = den * q + den := by rw [Nat.add_mul, Nat.mul_comm, Nat.one_mul]
  simp only
  split
  · omega
  · split
    · omega
    · rcases Nat.mod_two_eq_zero_or_one q with h0 | h1
      · rw [h0, Nat.add_zero]; omega
      · rw [h1]; omega

/-- The rounded quotient is one of the two whole numbers around the exact one. -/
theorem roundQuotient_eq_or (num den : Nat) :
    roundQuotient num den = num / den ∨ roundQuotient num den = num / den + 1 := by
  unfold roundQuotient
  simp only
  split
  · exact .inl rfl
  · split
    · exact .inr rfl
    · omega

/-- Halfway between two whole numbers the even one is taken. -/
theorem roundQuotient_even (num den : Nat) (h : 2 * (num % den) = den) :
    roundQuotient num den % 2 = 0 := by
  simp only [roundQuotient, h, Nat.lt_irrefl, if_false]
  omega

end Binary64

end Desinence
