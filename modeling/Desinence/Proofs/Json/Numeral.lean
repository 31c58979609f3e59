/-
Numerals of JSON, as they are read.

A numeral is read part by part: the sign, the digits in front of the point, the fraction,
the exponent. Each part is taken as far as it goes, and none begins with a character that
could prolong the part in front of it, so a text that is a numeral is read as a whole. What
is not read of a text that begins with a numeral is left for the next token.
-/
import Desinence.Proofs.Json.Grammar

set_option autoImplicit false

namespace Desinence

namespace Json

section Parts

variable {t r u : Text}

/-! ## Digits -/

theorem digitsOf_append (ht : ∀ c ∈ t, isDigit c = true) (hr : r.NoDigit) :
    digitsOf (t ++ r) = t := by
  rw [digitsOf, List.takeWhile_append_of_pos ht]
  cases r with
  | nil => exact List.append_nil t
  | cons c r => rw [List.takeWhile_cons_of_neg (by simp [hr c rfl]), List.append_nil]

/-- Digits that are read are a numeral, if there are any. -/
theorem isNumeral_digitsOf (h : digitsOf t ≠ []) : (digitsOf t).IsNumeral :=
  ⟨h, fun _ hc => List.all_eq_true.1 List.all_takeWhile _ hc⟩

theorem exists_eq_digitsOf_append (t : Text) : ∃ r, t = digitsOf t ++ r :=
  ⟨_, List.takeWhile_append_dropWhile.symm⟩

theorem digitsOf_of_isNumeral (ht : t.IsNumeral) : digitsOf t = t := by
  have h := digitsOf_append (r := []) ht.2 (by simp [Text.NoDigit])
  rwa [List.append_nil] at h

/-! ## Whole numbers -/

theorem integerDigits_append (ht : IsWhole t) (hr : r.NoDigit) : integerDigits (t ++ r) = t := by
  obtain rfl | ⟨⟨hne, hdigits⟩, hzero⟩ := ht
  · rfl
  · cases t with
    | nil => exact absurd rfl hne
    | cons c t =>
      have hc : c ≠ '0' := fun h => hzero (congrArg some h)
      rw [List.cons_append, integerDigits.eq_2 _ fun _ h => hc (List.cons.inj h).1,
        ← List.cons_append, digitsOf_append hdigits hr]

theorem isWhole_integerDigits (h : integerDigits t ≠ []) :
    ∃ whole r, t = whole ++ r ∧ IsWhole whole ∧ integerDigits t = whole := by
  rw [integerDigits.eq_def] at h ⊢
  split at h
  next r => exact ⟨['0'], r, rfl, .inl rfl, rfl⟩
  next hne =>
    obtain ⟨r, hr⟩ := exists_eq_digitsOf_append t
    refine ⟨digitsOf t, r, hr, .inr ⟨isNumeral_digitsOf h, fun hzero => ?_⟩, rfl⟩
    obtain ⟨ds, hds⟩ := List.head?_eq_some_iff.1 hzero
    exact hne _ (hr.trans (congrArg (· ++ r) hds))

/-- A whole number begins with a digit. -/
theorem IsWhole.exists_cons (ht : IsWhole t) : ∃ c r, t = c :: r ∧ isDigit c = true := by
  obtain rfl | ⟨⟨hne, hdigits⟩, -⟩ := ht
  · exact ⟨'0', [], rfl, by decide⟩
  · cases t with
    | nil => exact absurd rfl hne
    | cons c r => exact ⟨c, r, rfl, hdigits c List.mem_cons_self⟩

theorem IsWhole.isEmpty_eq_false (ht : IsWhole t) : t.isEmpty = false := by
  obtain ⟨c, r, rfl, -⟩ := ht.exists_cons
  rfl

/-- No sign stands behind the sign. -/
theorem IsWhole.head?_append_ne (ht : IsWhole t) (r : Text) : (t ++ r).head? ≠ some '-' := by
  obtain ⟨c, u, rfl, hc⟩ := ht.exists_cons
  rw [List.cons_append, List.head?_cons]
  rintro h
  rw [Option.some.inj h] at hc
  exact absurd hc (by decide)

theorem IsWhole.forall_isDigit (ht : IsWhole t) : ∀ c ∈ t, isDigit c = true := by
  obtain rfl | ⟨⟨-, hdigits⟩, -⟩ := ht
  · intro c hc
    rw [List.mem_singleton.1 hc]
    decide
  · exact hdigits

/-! ## Fractions -/

/-- The length of a fraction by its digits. -/
def fractionLength (digits : Text) : Nat :=
  if digits.isEmpty then 0 else digits.length + 1

theorem Fraction.eq_nil {fs : Text} (h : Fraction [] fs) : fs = [] := by
  cases h
  rfl

/-- **A fraction is read** in front of what is none. -/
theorem fractionDigits_append {f fs : Text} (hf : Fraction f fs) (hr : r.NoDigit)
    (hpoint : r.head? ≠ some '.') :
    fractionDigits (f ++ r) = fs ∧ fractionLength fs = f.length := by
  cases hf with
  | none =>
    refine ⟨?_, rfl⟩
    cases r with
    | nil => rfl
    | cons c r =>
      rw [List.nil_append, fractionDigits.eq_2 _ fun _ h => hpoint (congrArg List.head? h)]
  | digits ht =>
    refine ⟨digitsOf_append ht.2 hr, ?_⟩
    rw [fractionLength, if_neg (by simpa using ht.1)]
    rfl

theorem fraction_fractionDigits (t : Text) :
    ∃ f r, t = f ++ r ∧ Fraction f (fractionDigits t) ∧
      fractionLength (fractionDigits t) = f.length := by
  by_cases hnil : fractionDigits t = []
  · rw [hnil]
    exact ⟨[], t, rfl, .none, rfl⟩
  · rw [fractionDigits.eq_def] at hnil ⊢
    split at hnil
    next u =>
      obtain ⟨r, hr⟩ := exists_eq_digitsOf_append u
      refine ⟨'.' :: digitsOf u, r, congrArg ('.' :: ·) hr, .digits (isNumeral_digitsOf hnil), ?_⟩
      rw [fractionLength, if_neg (by simpa using hnil)]
      rfl
    · exact absurd rfl hnil

/-! ## Exponents -/

/-- The length of an exponent by its sign and its digits. -/
def exponentLength (sign digits : Text) : Nat :=
  if digits.isEmpty then 0 else sign.length + digits.length + 1

/-- What is read of an exponent without a sign. -/
theorem exponentDigits_plain {e : Char} (he : e = 'e' ∨ e = 'E') (ht : t.IsNumeral) :
    exponentDigits (e :: t) = ([], t) := by
  have hsign : ¬(t.head? == some '+' || t.head? == some '-') = true := by
    intro h
    rw [Bool.or_eq_true, beq_iff_eq, beq_iff_eq] at h
    obtain h | h := h <;> exact absurd (ht.2 _ (List.mem_of_head? h)) (by decide)
  rw [exponentDigits, if_pos he, if_neg hsign]
  exact congrArg _ (digitsOf_of_isNumeral ht)

/-- What is read of one with a sign. -/
theorem exponentDigits_signed {e sign : Char} (he : e = 'e' ∨ e = 'E')
    (hsign : sign = '+' ∨ sign = '-') (ht : t.IsNumeral) :
    exponentDigits (e :: sign :: t) = ([sign], t) := by
  have hhead : ((sign :: t).head? == some '+' || (sign :: t).head? == some '-') = true := by
    rw [Bool.or_eq_true, beq_iff_eq, beq_iff_eq]
    exact hsign.imp (congrArg some) (congrArg some)
  rw [exponentDigits, if_pos he, if_pos hhead]
  exact congrArg _ (digitsOf_of_isNumeral ht)

theorem exponentLength_of_ne_nil {sign : Text} (h : t ≠ []) :
    exponentLength sign t = sign.length + t.length + 1 := by
  rw [exponentLength, if_neg (by simpa using h)]

/-- **An exponent is read** as a whole. -/
theorem exponentDigits_of_exponent {x : Text} {e : Int} (hx : Exponent x e) :
    exponentValue (exponentDigits x).1 (exponentDigits x).2 = e ∧
      exponentLength (exponentDigits x).1 (exponentDigits x).2 = x.length ∧
        ((exponentDigits x).2 = [] ↔ x = []) := by
  cases hx with
  | none => exact ⟨rfl, rfl, Iff.rfl⟩
  | plain he ht =>
    rw [exponentDigits_plain he ht, exponentLength_of_ne_nil ht.1]
    exact ⟨rfl, congrArg (· + 1) (Nat.zero_add _), by simp [ht.1]⟩
  | plus he ht =>
    rw [exponentDigits_signed he (.inl rfl) ht, exponentLength_of_ne_nil ht.1]
    exact ⟨rfl, congrArg (· + 1) (Nat.add_comm _ _), by simp [ht.1]⟩
  | minus he ht =>
    rw [exponentDigits_signed he (.inr rfl) ht, exponentLength_of_ne_nil ht.1]
    exact ⟨rfl, congrArg (· + 1) (Nat.add_comm _ _), by simp [ht.1]⟩

/-- **What is read as an exponent** is one. -/
theorem exponent_exponentDigits (t : Text) :
    ∃ x r, t = x ++ r ∧
      Exponent x (exponentValue (exponentDigits t).1 (exponentDigits t).2) ∧
        exponentLength (exponentDigits t).1 (exponentDigits t).2 = x.length ∧
          ((exponentDigits t).2 = [] ↔ x = []) := by
  by_cases hnil : (exponentDigits t).2 = []
  -- A letter that no digits follow is left alone, its sign too.
  · have hzero : ∀ sign, exponentValue sign [] = 0 := by
      intro sign
      rw [exponentValue]
      split <;> rfl
    rw [hnil, hzero]
    exact ⟨[], t, rfl, .none, rfl, Iff.rfl⟩
  · cases t with
    | nil => exact absurd rfl hnil
    | cons e u =>
      have he : e = 'e' ∨ e = 'E' := by
        by_contra he
        rw [exponentDigits, if_neg he] at hnil
        exact hnil rfl
      by_cases hsign : (u.head? == some '+' || u.head? == some '-') = true
      · rw [exponentDigits, if_pos he, if_pos hsign] at hnil ⊢
        rw [Bool.or_eq_true, beq_iff_eq, beq_iff_eq] at hsign
        cases u with
        | nil => exact absurd hsign (by simp)
        | cons c v =>
          have ht : (digitsOf v).IsNumeral := isNumeral_digitsOf hnil
          obtain ⟨r, hr⟩ := exists_eq_digitsOf_append v
          refine ⟨e :: c :: digitsOf v, r, congrArg (e :: c :: ·) hr, ?_, ?_, by simp [ht.1]⟩
          · obtain h | h := hsign <;> obtain rfl := Option.some.inj h
            · exact .plus he ht
            · exact .minus he ht
          · exact (exponentLength_of_ne_nil ht.1).trans (congrArg (· + 1) (Nat.add_comm _ _))
      · rw [exponentDigits, if_pos he, if_neg hsign] at hnil ⊢
        have ht : (digitsOf u).IsNumeral := isNumeral_digitsOf hnil
        obtain ⟨r, hr⟩ := exists_eq_digitsOf_append u
        exact ⟨e :: digitsOf u, r, congrArg (e :: ·) hr, .plain he ht,
          (exponentLength_of_ne_nil ht.1).trans (congrArg (· + 1) (Nat.zero_add _)),
          by simp [ht.1]⟩

end Parts

/-! ## Numerals -/

/-- A number is read as its parts are, behind the sign. -/
theorem readNumber_append {sign u : Text} {negative : Bool} (hsign : Sign sign negative)
    (hu : sign = [] → u.head? ≠ some '-') :
    readNumber (sign ++ u) =
      let whole := integerDigits u
      let fraction := fractionDigits (u.drop whole.length)
      let exponent := exponentDigits ((u.drop whole.length).drop (fractionLength fraction))
      if whole.isEmpty then none
      else if fraction.isEmpty && exponent.2.isEmpty then
        some (.integer negative whole, sign.length + whole.length)
      else
        some (.number (.ofDecimal negative (Text.decimalValue (whole ++ fraction))
            (exponentValue exponent.1 exponent.2 - fraction.length)),
          sign.length + whole.length + fractionLength fraction +
            exponentLength exponent.1 exponent.2) := by
  cases hsign with
  | plus =>
    have hhead : ¬(u.head? == some '-') = true := by simpa using hu rfl
    rw [List.nil_append, readNumber, if_neg hhead]
    simp only [List.take_zero, List.length_nil, Nat.zero_add, List.drop_zero]
    rfl
  | minus =>
    rw [readNumber]
    simp only [List.cons_append, List.nil_append, List.head?_cons, beq_self_eq_true, if_true,
      List.take_succ_cons, List.take_zero, List.length_cons, List.length_nil, Nat.zero_add,
      List.drop_succ_cons, List.drop_zero, Nat.add_comm 1]
    rfl

/-- The sign of a text, and what stands behind it. -/
theorem exists_sign_append (t : Text) :
    ∃ sign negative u, t = sign ++ u ∧ Sign sign negative ∧ (sign = [] → u.head? ≠ some '-') := by
  by_cases hminus : t.head? = some '-'
  · obtain ⟨u, rfl⟩ := List.head?_eq_some_iff.1 hminus
    exact ⟨['-'], true, u, rfl, .minus, fun h => absurd h (List.cons_ne_nil _ _)⟩
  · exact ⟨[], false, t, rfl, .plus, fun _ => hminus⟩

/-- **What is read as a number** in front of a text is a numeral. -/
theorem numeral_of_readNumber {t : Text} {token : Token} {n : Nat}
    (h : readNumber t = some (token, n)) : ∃ l r, t = l ++ r ∧ n = l.length ∧ Numeral l token := by
  obtain ⟨sign, negative, u, rfl, hsign, hu⟩ := exists_sign_append t
  rw [readNumber_append hsign hu] at h
  dsimp only at h
  split at h
  · exact absurd h (by simp)
  next hne =>
    obtain ⟨whole, r, rfl, hwhole, hdigits⟩ := isWhole_integerDigits (t := u) (by simpa using hne)
    rw [hdigits, List.drop_left] at h
    obtain ⟨f, r', hr, hf, hflength⟩ := fraction_fractionDigits r
    have hbehind : r.drop (fractionLength (fractionDigits r)) = r' := by
      rw [hflength, hr, List.drop_left]
    rw [hbehind, hflength] at h
    obtain ⟨x, rest, rfl, hx, hxlength, hxnil⟩ := exponent_exponentDigits r'
    rw [hxlength] at h
    split at h
    next hplain =>
      obtain ⟨rfl, rfl⟩ := Prod.mk.inj (Option.some.inj h)
      exact ⟨sign ++ whole, r, (List.append_assoc _ _ _).symm, (List.length_append).symm,
        .integer hsign hwhole⟩
    next hplain =>
      obtain ⟨rfl, rfl⟩ := Prod.mk.inj (Option.some.inj h)
      refine ⟨sign ++ (whole ++ (f ++ x)), rest, ?_, ?_, .number hsign hwhole hf hx ?_⟩
      · rw [hr]
        simp only [List.append_assoc]
      · simp only [List.length_append, Nat.add_assoc]
      -- With neither a fraction nor an exponent it would have been read as an integer.
      · intro hnil
        obtain ⟨rfl, rfl⟩ := List.append_eq_nil_iff.1 hnil
        rw [Fraction.eq_nil hf, hxnil.2 rfl] at hplain
        exact hplain rfl

/-- An exponent begins with its letter. -/
theorem Exponent.head? {x : Text} {e : Int} (hx : Exponent x e) :
    x.NoDigit ∧ x.head? ≠ some '.' := by
  cases hx with
  | none => exact ⟨by simp [Text.NoDigit], by simp⟩
  | plain he => obtain rfl | rfl := he <;> exact ⟨by simp [Text.NoDigit, isDigit], by simp⟩
  | plus he => obtain rfl | rfl := he <;> exact ⟨by simp [Text.NoDigit, isDigit], by simp⟩
  | minus he => obtain rfl | rfl := he <;> exact ⟨by simp [Text.NoDigit, isDigit], by simp⟩

/-- **A numeral is read** as a whole. -/
theorem readNumber_of_numeral {l : Text} {token : Token} (h : Numeral l token) :
    readNumber l = some (token, l.length) := by
  cases h with
  | @integer sign whole negative hsign hwhole =>
    have hdigits : integerDigits whole = whole := by
      have h := integerDigits_append (r := []) hwhole (by simp [Text.NoDigit])
      rwa [List.append_nil] at h
    have hhead : whole.head? ≠ some '-' := by
      have h := hwhole.head?_append_ne []
      rwa [List.append_nil] at h
    rw [readNumber_append hsign fun _ => hhead]
    dsimp only
    rw [hdigits, hwhole.isEmpty_eq_false, if_neg Bool.false_ne_true, List.drop_length,
      List.length_append]
    rfl
  | @number sign whole f fs x negative e hsign hwhole hf hx hsome =>
    -- Each part is read in front of the next, from the last one to the first.
    obtain ⟨hxdigit, hxpoint⟩ := hx.head?
    obtain ⟨hfdigits, hflength⟩ := fractionDigits_append hf hxdigit hxpoint
    obtain ⟨hvalue, hxlength, hxnil⟩ := exponentDigits_of_exponent hx
    have hbehind : (f ++ x).NoDigit := by
      cases hf with
      | none => exact hxdigit
      | digits => simp [Text.NoDigit, isDigit]
    rw [readNumber_append hsign fun _ => hwhole.head?_append_ne _]
    dsimp only
    rw [integerDigits_append hwhole hbehind, hwhole.isEmpty_eq_false, if_neg Bool.false_ne_true,
      List.drop_left, hfdigits, hflength, List.drop_left, hvalue, hxlength, if_neg]
    · simp only [List.length_append, Nat.add_assoc]
    · intro hnil
      rw [Bool.and_eq_true, List.isEmpty_iff, List.isEmpty_iff] at hnil
      obtain ⟨rfl, hx'⟩ := hnil
      rw [hxnil.1 hx', List.append_nil] at hsome
      cases hf with
      | none => exact hsome rfl
      | digits ht => exact ht.1 rfl

end Json

end Desinence
