/-
The times that the names of session logs tell.

A name tells a time if it has the time's digits, four of the year and two of everything
else, between the stem's underscore and the extension. Every name that looks like one of
a session log tells one time, and a session log tells the time of its start as long as
the year has four digits. Since all numbers stand in the order of their weight and with
a fixed width, the order of names is the order of times (`nameTelling_lt_iff`): the
first number that differs decides in both.
-/
import Desinence.Proofs.SessionLog
import Desinence.Proofs.Text.Order

set_option autoImplicit false

namespace Desinence

/-! ## Times -/

namespace Timestamp

variable {t u : Timestamp}

/-- The numbers of a time, from the year to the second. -/
def fields (t : Timestamp) : List Nat :=
  [t.year, t.month, t.day, t.hour, t.minute, t.second]

theorem fields_inj : t.fields = u.fields ↔ t = u := by
  cases t
  cases u
  simp [fields]

/-- **One time is before another** if it has less in the first number that differs. -/
def IsBefore (t u : Timestamp) : Prop :=
  t.fields < u.fields

instance : DecidableRel IsBefore := fun t u =>
  inferInstanceAs (Decidable (t.fields < u.fields))

theorem IsBefore.ne (h : t.IsBefore u) : t ≠ u := by
  rintro rfl
  exact lt_irrefl _ h

theorem isBefore_or_eq_or_isBefore (t u : Timestamp) : t.IsBefore u ∨ t = u ∨ u.IsBefore t := by
  rw [← fields_inj]
  exact lt_trichotomy t.fields u.fields

/-- A time whose numbers have no more digits than there are in a name. -/
def InDigits (t : Timestamp) : Prop :=
  t.year < 10 ^ 4 ∧ t.month < 10 ^ 2 ∧ t.day < 10 ^ 2 ∧
    t.hour < 10 ^ 2 ∧ t.minute < 10 ^ 2 ∧ t.second < 10 ^ 2

instance (t : Timestamp) : Decidable t.InDigits :=
  inferInstanceAs (Decidable (_ ∧ _ ∧ _ ∧ _ ∧ _ ∧ _))

/-- **The digits of a time**, four for the year and two for each of the others. -/
def digits (t : Timestamp) : Text :=
  Text.zeroPadded 4 t.year ++ Text.zeroPadded 2 t.month ++ Text.zeroPadded 2 t.day ++ ['_'] ++
    Text.zeroPadded 2 t.hour ++ Text.zeroPadded 2 t.minute ++ Text.zeroPadded 2 t.second

/-- A year of four digits is written with four digits. -/
theorem stamp_eq_digits (h : 10 ^ 3 ≤ t.year) : t.stamp = t.digits := by
  rw [stamp, digits, Text.zeroPadded_eq_ofNat (by decide) h]

/-- **The digits are in the order of the times**, whatever follows them: number by
number, the first that differs decides. -/
theorem digits_append_lt (ht : t.InDigits) (hu : u.InDigits) (h : t.IsBefore u) (rest : Text) :
    t.digits ++ rest < u.digits ++ rest := by
  obtain ⟨hyear, hmonth, hday, hhour, hminute, hsecond⟩ := ht
  obtain ⟨hyear', hmonth', hday', hhour', hminute', hsecond'⟩ := hu
  have hnone : ([] : List Nat) < [] → rest < rest := fun hlt => absurd hlt (List.not_lt_nil _)
  have hseconds := Text.padded_append_lt (by decide) hsecond hsecond' hnone
  have hminutes := Text.padded_append_lt (by decide) hminute hminute' hseconds
  have hhours := Text.padded_append_lt (by decide) hhour hhour' hminutes
  have hdays := Text.padded_append_lt (by decide) hday hday'
    fun hlt => (List.cons_lt_cons_self (a := '_')).2 (hhours hlt)
  have hmonths := Text.padded_append_lt (by decide) hmonth hmonth' hdays
  have hyears := Text.padded_append_lt (by decide) hyear hyear' hmonths h
  simpa only [digits, List.append_assoc, List.cons_append, List.nil_append] using hyears

/-- Eight digits and six are the digits of a time. -/
theorem exists_eq_digits {day time : Text} (hday : day.length = 8) (htime : time.length = 6)
    (h : ∀ c ∈ day ++ time, isDigit c = true) :
    ∃ t : Timestamp, t.InDigits ∧ day ++ ['_'] ++ time = t.digits := by
  obtain ⟨hdigits, hdigits'⟩ := List.forall_mem_append.1 h
  -- Numeral by numeral, from the front; nothing is left of either text behind the last.
  obtain ⟨year, day, hyear, rfl, hlength, hmore⟩ :=
    Text.exists_eq_zeroPadded_append hdigits (by decide : 0 < 4) (by omega)
  obtain ⟨month, day, hmonth, rfl, hlength, hmore⟩ :=
    Text.exists_eq_zeroPadded_append hmore (by decide : 0 < 2) (by omega)
  obtain ⟨dayOfMonth, day, hday', rfl, hlength, -⟩ :=
    Text.exists_eq_zeroPadded_append hmore (by decide : 0 < 2) (by omega)
  obtain rfl : day = [] := List.eq_nil_of_length_eq_zero (by omega)
  obtain ⟨hour, time, hhour, rfl, hlength, hmore⟩ :=
    Text.exists_eq_zeroPadded_append hdigits' (by decide : 0 < 2) (by omega)
  obtain ⟨minute, time, hminute, rfl, hlength, hmore⟩ :=
    Text.exists_eq_zeroPadded_append hmore (by decide : 0 < 2) (by omega)
  obtain ⟨second, time, hsecond, rfl, hlength, -⟩ :=
    Text.exists_eq_zeroPadded_append hmore (by decide : 0 < 2) (by omega)
  obtain rfl : time = [] := List.eq_nil_of_length_eq_zero (by omega)
  refine ⟨⟨year, month, dayOfMonth, hour, minute, second⟩,
    ⟨hyear, hmonth, hday', hhour, hminute, hsecond⟩, ?_⟩
  simp only [digits, List.append_assoc, List.append_nil]

end Timestamp

/-! ## Names -/

namespace SessionLog

variable {stem name : Text} {t u : Timestamp}

/-- **The name that tells a time.** -/
def nameTelling (stem : Text) (t : Timestamp) : Text :=
  stem ++ ['_'] ++ t.digits ++ extension

/-- A session log tells the time of its start. -/
theorem nameOf_eq_nameTelling (h : 10 ^ 3 ≤ t.year) : nameOf stem t = nameTelling stem t := by
  rw [nameOf, nameTelling, Timestamp.stamp_eq_digits h]

/-- **A name that looks like one of a session log tells a time.** -/
theorem IsNameOf.exists_time (h : IsNameOf stem name) :
    ∃ t : Timestamp, t.InDigits ∧ name = nameTelling stem t := by
  obtain ⟨day, time, rfl, hday, htime, hdigits⟩ := h
  obtain ⟨t, ht, heq⟩ := Timestamp.exists_eq_digits hday htime (List.all_eq_true.1 hdigits)
  refine ⟨t, ht, ?_⟩
  rw [nameTelling, ← heq]
  simp only [List.append_assoc]

theorem nameTelling_lt (ht : t.InDigits) (hu : u.InDigits) (h : t.IsBefore u) :
    nameTelling stem t < nameTelling stem u := by
  simp only [nameTelling, List.append_assoc (stem ++ ['_'])]
  exact List.append_left_lt (Timestamp.digits_append_lt ht hu h extension)

/-- **Names are in the order of the times** that they tell. -/
theorem nameTelling_lt_iff (ht : t.InDigits) (hu : u.InDigits) :
    nameTelling stem t < nameTelling stem u ↔ t.IsBefore u := by
  constructor
  · intro h
    rcases Timestamp.isBefore_or_eq_or_isBefore t u with hlt | rfl | hgt
    · exact hlt
    · exact absurd h (lt_irrefl _)
    · exact absurd h (nameTelling_lt hu ht hgt).asymm
  · exact nameTelling_lt ht hu

theorem nameTelling_inj (ht : t.InDigits) (hu : u.InDigits) :
    nameTelling stem t = nameTelling stem u ↔ t = u := by
  constructor
  · intro h
    rcases Timestamp.isBefore_or_eq_or_isBefore t u with hlt | heq | hgt
    · exact absurd h (nameTelling_lt ht hu hlt).ne
    · exact heq
    · exact absurd h (nameTelling_lt hu ht hgt).ne'
  · rintro rfl
    rfl

/-- A name that tells a time is no way up. -/
theorem nameTelling_ne_up (stem : Text) (t : Timestamp) : nameTelling stem t ≠ ['.', '.'] := by
  intro h
  have hmem : '_' ∈ nameTelling stem t := by simp [nameTelling]
  rw [h] at hmem
  exact absurd hmem (by decide)

end SessionLog

end Desinence
