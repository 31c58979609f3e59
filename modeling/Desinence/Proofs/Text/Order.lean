/-
The order of texts.

Texts are ordered as lists of characters are, so sorting them is the library's
insertion sort, and a list of texts that is in strict order already is what sorting any
rearrangement of it gives (`sorted_reverse_eq`).

Where numerals of one length are compared, their order is the order of the numbers they
spell. A number that is filled up with zeros to a fixed width has that length, so a text
made of such numerals in a row sorts as the list of the numbers does
(`padded_append_lt`, one numeral at a time).
-/
import Mathlib.Data.Char
import Mathlib.Data.List.Lex
import Mathlib.Data.List.Sort
import Desinence.Proofs.Text.Decimal

set_option autoImplicit false

namespace Desinence

namespace Text

/-! ## Sorting -/

/-- The order of texts is that of lists. -/
theorem le_iff {s t : Text} : le s t = true ↔ s ≤ t := by
  induction s generalizing t with
  | nil =>
    have hnil : [] ≤ t := le_of_not_gt (List.not_lt_nil t)
    simp only [le, hnil]
  | cons a s ih =>
    cases t with
    | nil => simp [le]
    | cons b t =>
      rw [le, Bool.or_eq_true, Bool.and_eq_true, decide_eq_true_eq, beq_iff_eq, ih,
        le_iff_lt_or_eq, le_iff_lt_or_eq, List.cons_lt_cons_iff, List.cons.injEq]
      tauto

theorem insertInOrder_eq (t : Text) (us : List Text) :
    insertInOrder t us = us.orderedInsert (· ≤ ·) t := by
  induction us with
  | nil => rfl
  | cons u us ih => simp only [insertInOrder, List.orderedInsert_cons, le_iff, ih]

/-- **Sorting** is the insertion sort of the library. -/
theorem sorted_eq_insertionSort (ts : List Text) : sorted ts = ts.insertionSort (· ≤ ·) := by
  induction ts with
  | nil => rfl
  | cons t ts ih =>
    rw [List.insertionSort_cons, ← ih, ← insertInOrder_eq]
    rfl

theorem pairwise_sorted (ts : List Text) : (sorted ts).Pairwise (· ≤ ·) := by
  rw [sorted_eq_insertionSort]
  exact List.pairwise_insertionSort (· ≤ ·) ts

/-- Turned around, sorted texts that are all different are in descending order. -/
theorem pairwise_reverse_sorted {ts : List Text} (h : ts.Nodup) :
    (sorted ts).reverse.Pairwise (· > ·) := by
  have hnodup : (sorted ts).Nodup := (perm_sorted ts).nodup_iff.2 h
  rw [List.pairwise_reverse]
  exact (pairwise_sorted ts).imp₂ (fun _ _ hle hne => lt_of_le_of_ne hle hne) hnodup

/-- **Texts in descending order** are what sorting gives of any list that has the same
ones, turned around. -/
theorem reverse_sorted_eq {ts us : List Text} (hts : ts.Nodup) (hus : us.Pairwise (· > ·))
    (h : ∀ t, t ∈ ts ↔ t ∈ us) : (sorted ts).reverse = us := by
  have hnodup : us.Nodup := hus.imp fun hlt => ne_of_gt hlt
  have hperm : (sorted ts).reverse.Perm us :=
    ((sorted ts).reverse_perm.trans (perm_sorted ts)).trans
      ((List.perm_ext_iff_of_nodup hts hnodup).2 h)
  exact hperm.eq_of_pairwise (fun _ _ _ _ hab hba => absurd hab hba.asymm)
    (pairwise_reverse_sorted hts) hus

/-! ## Numerals of one length -/

theorem decimalValue_append (s t : Text) :
    (s ++ t).decimalValue = s.decimalValue * 10 ^ t.length + t.decimalValue := by
  induction t using List.reverseRecOn with
  | nil => simp [decimalValue]
  | append_singleton t c ih =>
    have hlast : ∀ u : Text, (u ++ [c]).decimalValue = 10 * u.decimalValue + digitValue c := by
      intro u
      rw [decimalValue, List.foldl_append]
      rfl
    rw [← List.append_assoc, hlast, hlast, ih, List.length_append, List.length_singleton,
      Nat.pow_succ, Nat.mul_add, Nat.add_assoc, Nat.mul_left_comm, Nat.mul_comm 10]

theorem digitValue_lt_digitValue {c d : Char} (hc : isDigit c = true) (h : c < d) :
    digitValue c < digitValue d := by
  have hlt : c.toNat < d.toNat := h
  have hzero : ('0').toNat = 48 := rfl
  obtain ⟨hge, -⟩ := isDigit_iff.1 hc
  rw [digitValue, digitValue, hzero]
  omega

/-- **Numerals of one length are in the order of their numbers.** -/
theorem decimalValue_lt_decimalValue {s t : Text} (hs : ∀ c ∈ s, isDigit c = true)
    (ht : ∀ c ∈ t, isDigit c = true) (hlength : s.length = t.length) (h : s < t) :
    s.decimalValue < t.decimalValue := by
  induction s generalizing t with
  | nil =>
    obtain rfl := List.eq_nil_of_length_eq_zero hlength.symm
    exact absurd h (lt_irrefl _)
  | cons c s ih =>
    obtain ⟨d, t, rfl⟩ := List.exists_cons_of_length_eq_add_one hlength.symm
    obtain ⟨hc, hs'⟩ := List.forall_mem_cons.1 hs
    have ht' := (List.forall_mem_cons.1 ht).2
    have htail : s.length = t.length := Nat.succ.inj hlength
    have hfirst : ∀ (b : Char) (u : Text),
        decimalValue (b :: u) = digitValue b * 10 ^ u.length + u.decimalValue := by
      intro b u
      rw [← List.singleton_append, decimalValue_append]
      simp [decimalValue]
    rw [hfirst, hfirst, htail]
    rcases List.cons_lt_cons_iff.1 h with hlt | ⟨rfl, hrest⟩
    · -- What follows the first digits is too little to make up for their difference.
      have hsmall : decimalValue s < 10 ^ t.length := htail ▸ decimalValue_lt hs'
      have hdigit : (digitValue c + 1) * 10 ^ t.length ≤ digitValue d * 10 ^ t.length :=
        Nat.mul_le_mul_right _ (digitValue_lt_digitValue hc hlt)
      rw [Nat.add_mul, Nat.one_mul] at hdigit
      omega
    · exact Nat.add_lt_add_left (ih hs' ht' htail hrest) _

/-- Of one length there is but one numeral for a number. -/
theorem eq_of_decimalValue_eq {s t : Text} (hs : ∀ c ∈ s, isDigit c = true)
    (ht : ∀ c ∈ t, isDigit c = true) (hlength : s.length = t.length)
    (h : s.decimalValue = t.decimalValue) : s = t := by
  rcases lt_trichotomy s t with hlt | heq | hgt
  · exact absurd h (decimalValue_lt_decimalValue hs ht hlength hlt).ne
  · exact heq
  · exact absurd h (decimalValue_lt_decimalValue ht hs hlength.symm hgt).ne'

/-! ## Numerals of a fixed width -/

theorem isDigit_of_mem_zeroPadded {width n : Nat} {c : Char} (h : c ∈ zeroPadded width n) :
    isDigit c = true := by
  rcases List.mem_append.1 h with hzero | hnumeral
  · rw [List.eq_of_mem_replicate hzero]
    rfl
  · exact isDigit_of_mem_ofNat hnumeral

/-- Zeros in front do not count. -/
theorem decimalValue_zeroPadded (width n : Nat) : (zeroPadded width n).decimalValue = n := by
  have hzeros : ∀ k, decimalValue (List.replicate k '0') = 0 := by
    intro k
    induction k with
    | zero => rfl
    | succ k ih =>
      rw [List.replicate_succ', decimalValue_append, ih]
      rfl
  rw [zeroPadded, decimalValue_append, hzeros, decimalValue_ofNat, Nat.zero_mul, Nat.zero_add]

theorem length_zeroPadded {width n : Nat} (hwidth : 0 < width) (h : n < 10 ^ width) :
    (zeroPadded width n).length = width := by
  have hle := length_ofNat_le hwidth h
  rw [zeroPadded, List.length_append, List.length_replicate]
  omega

/-- **Filled up with zeros, a number is written as any numeral of that width** that spells
it. -/
theorem zeroPadded_decimalValue {t : Text} (ht : t.IsNumeral) :
    zeroPadded t.length t.decimalValue = t :=
  eq_of_decimalValue_eq (fun _ => isDigit_of_mem_zeroPadded) ht.2
    (length_zeroPadded (List.length_pos_of_ne_nil ht.1) (decimalValue_lt ht.2))
    (decimalValue_zeroPadded _ _)

/-- **A text of digits begins with a numeral of any width** that it is long enough for. -/
theorem exists_eq_zeroPadded_append {width : Nat} {t : Text} (ht : ∀ c ∈ t, isDigit c = true)
    (hwidth : 0 < width) (hlength : width ≤ t.length) :
    ∃ n rest, n < 10 ^ width ∧ t = zeroPadded width n ++ rest ∧
      rest.length = t.length - width ∧ ∀ c ∈ rest, isDigit c = true := by
  have hfront : (t.take width).length = width := List.length_take_of_le hlength
  have hdigits : ∀ c ∈ t.take width, isDigit c = true := fun c hc => ht c (List.mem_of_mem_take hc)
  have hne : t.take width ≠ [] := List.ne_nil_of_length_pos (by omega)
  have hvalue := decimalValue_lt hdigits
  have hpadded := zeroPadded_decimalValue ⟨hne, hdigits⟩
  rw [hfront] at hvalue hpadded
  refine ⟨_, t.drop width, hvalue, ?_, List.length_drop, fun c hc => ht c (List.mem_of_mem_drop hc)⟩
  rw [hpadded, List.take_append_drop]

/-- A number that has the width is written as it is. -/
theorem zeroPadded_eq_ofNat {width n : Nat} (hwidth : 0 < width) (h : 10 ^ width ≤ n) :
    zeroPadded (width + 1) n = ofNat n := by
  have hlength : ¬(ofNat n).length ≤ width := fun hle =>
    absurd h (Nat.not_le.2 ((Nat.length_toDigits_le_iff (by omega) hwidth).1 hle))
  have hnone : width + 1 - (ofNat n).length = 0 := by omega
  simp only [zeroPadded, hnone, List.replicate_zero, List.nil_append]

theorem zeroPadded_lt {width m n : Nat} (hwidth : 0 < width) (hm : m < 10 ^ width)
    (hn : n < 10 ^ width) (h : m < n) : zeroPadded width m < zeroPadded width n := by
  rcases lt_trichotomy (zeroPadded width m) (zeroPadded width n) with hlt | heq | hgt
  · exact hlt
  · have hvalue := congrArg decimalValue heq
    rw [decimalValue_zeroPadded, decimalValue_zeroPadded] at hvalue
    exact absurd h (by omega)
  · have hlength : (zeroPadded width n).length = (zeroPadded width m).length := by
      rw [length_zeroPadded hwidth hm, length_zeroPadded hwidth hn]
    have hvalue := decimalValue_lt_decimalValue (fun _ => isDigit_of_mem_zeroPadded)
      (fun _ => isDigit_of_mem_zeroPadded) hlength hgt
    rw [decimalValue_zeroPadded, decimalValue_zeroPadded] at hvalue
    exact absurd h (by omega)

/-- A difference in stretches of one length decides. -/
theorem append_lt_append {s t : Text} (hlength : s.length = t.length) (h : s < t) (u v : Text) :
    s ++ u < t ++ v := by
  induction s generalizing t with
  | nil =>
    obtain rfl := List.eq_nil_of_length_eq_zero hlength.symm
    exact absurd h (lt_irrefl _)
  | cons c s ih =>
    obtain ⟨d, t, rfl⟩ := List.exists_cons_of_length_eq_add_one hlength.symm
    rw [List.cons_append, List.cons_append, List.cons_lt_cons_iff]
    rcases List.cons_lt_cons_iff.1 h with hlt | ⟨rfl, hrest⟩
    · exact .inl hlt
    · exact .inr ⟨rfl, ih (Nat.succ.inj hlength) hrest⟩

/-- **Texts that begin with numerals of one width sort as lists that begin with the
numbers**, if the rest of the texts sorts as the rest of the lists. -/
theorem padded_append_lt {width m n : Nat} {ms ns : List Nat} {s t : Text} (hwidth : 0 < width)
    (hm : m < 10 ^ width) (hn : n < 10 ^ width) (hrest : ms < ns → s < t)
    (h : m :: ms < n :: ns) : zeroPadded width m ++ s < zeroPadded width n ++ t := by
  rcases List.cons_lt_cons_iff.1 h with hlt | ⟨rfl, hlt⟩
  · refine append_lt_append ?_ (zeroPadded_lt hwidth hm hn hlt) s t
    rw [length_zeroPadded hwidth hm, length_zeroPadded hwidth hn]
  · exact List.append_left_lt (hrest hlt)

end Text

end Desinence
