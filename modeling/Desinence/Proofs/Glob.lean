/-
Names that fit a pattern.

A name fits a list of pieces if it falls into stretches, one for each piece in its
order. So it fits two lists in a row if it falls into two, and this is what makes a
pattern that is put together from texts readable: its pieces are those of the texts,
as long as no bracket that is open in the first is closed in the second.
-/
import Mathlib.Data.List.Infix
import Mathlib.Data.List.TakeWhile
import Desinence.Glob

set_option autoImplicit false

namespace Desinence

namespace Glob

variable {p : Piece} {ps qs : List Piece} {t u : Text}

/-! ## One piece -/

theorem rests_eq_tails (t : Text) : rests t = t.tails := by
  induction t with
  | nil => rfl
  | cons c r ih => rw [rests, ih, List.tails_cons]

/-- A star takes any run of characters. -/
theorem fits_anyRun_iff :
    fits (.anyRun :: ps) t = true ↔ ∃ run rest, t = run ++ rest ∧ fits ps rest = true := by
  rw [fits, rests_eq_tails, List.any_eq_true]
  constructor
  · rintro ⟨rest, hrest, hfits⟩
    obtain ⟨run, hrun⟩ := (List.mem_tails _ _).1 hrest
    exact ⟨run, rest, hrun.symm, hfits⟩
  · rintro ⟨run, rest, rfl, hfits⟩
    exact ⟨rest, (List.mem_tails _ _).2 (List.suffix_append run rest), hfits⟩

/-- Whether a piece takes a single character. -/
def Piece.takes (c : Char) : Piece → Bool
  | .char d => c == d
  | .anyChar => true
  | .oneOf negated items => inSet negated items c
  | .anyRun => false

/-- A piece that is not a star takes one character. -/
theorem fits_cons_iff (h : p ≠ .anyRun) :
    fits (p :: ps) t = true ↔
      ∃ c rest, t = c :: rest ∧ p.takes c = true ∧ fits ps rest = true := by
  cases t with
  | nil => cases p <;> simp_all [fits]
  | cons c rest => cases p <;> simp_all [fits, Piece.takes]

/-! ## Pieces in a row -/

/-- **A name fits two lists in a row if it falls into two** that fit one each. The
induction takes the pieces of the first off, one by one. -/
theorem fits_append_iff :
    fits (ps ++ qs) t = true ↔
      ∃ front back, t = front ++ back ∧ fits ps front = true ∧ fits qs back = true := by
  induction ps generalizing t with
  | nil =>
    constructor
    · intro h
      exact ⟨[], t, rfl, rfl, h⟩
    · rintro ⟨front, back, rfl, hfront, hback⟩
      obtain rfl : front = [] := List.isEmpty_iff.1 hfront
      exact hback
  | cons p ps ih =>
    rw [List.cons_append]
    by_cases hp : p = .anyRun
    · -- The run of a star is part of the first stretch, so the three are regrouped.
      subst hp
      rw [fits_anyRun_iff]
      constructor
      · rintro ⟨run, rest, rfl, hrest⟩
        obtain ⟨front, back, rfl, hfront, hback⟩ := ih.1 hrest
        exact ⟨run ++ front, back, (List.append_assoc ..).symm,
          fits_anyRun_iff.2 ⟨run, front, rfl, hfront⟩, hback⟩
      · rintro ⟨front, back, rfl, hfront, hback⟩
        obtain ⟨run, rest, rfl, hrest⟩ := fits_anyRun_iff.1 hfront
        exact ⟨run, rest ++ back, List.append_assoc .., ih.2 ⟨rest, back, rfl, hrest, hback⟩⟩
    · rw [fits_cons_iff hp]
      constructor
      · rintro ⟨c, rest, rfl, hc, hrest⟩
        obtain ⟨front, back, rfl, hfront, hback⟩ := ih.1 hrest
        exact ⟨c :: front, back, rfl, (fits_cons_iff hp).2 ⟨c, front, rfl, hc, hfront⟩, hback⟩
      · rintro ⟨front, back, rfl, hfront, hback⟩
        obtain ⟨c, rest, rfl, hc, hrest⟩ := (fits_cons_iff hp).1 hfront
        exact ⟨c, rest ++ back, rfl, hc, ih.2 ⟨rest, back, rfl, hrest, hback⟩⟩

/-- Characters take themselves. -/
theorem fits_map_char_iff : fits (t.map .char) u = true ↔ u = t := by
  induction t generalizing u with
  | nil => exact List.isEmpty_iff
  | cons c r ih =>
    rw [List.map_cons, fits_cons_iff (by simp)]
    constructor
    · rintro ⟨d, rest, rfl, hd, hrest⟩
      obtain rfl : d = c := beq_iff_eq.1 hd
      rw [ih.1 hrest]
    · rintro rfl
      exact ⟨c, r, rfl, beq_self_eq_true c, ih.2 rfl⟩

/-! ## Patterns put together -/

/-- A text without characters that mean something else in a pattern. -/
def IsLiteral (t : Text) : Prop :=
  ∀ c ∈ t, c ≠ '*' ∧ c ≠ '?' ∧ c ≠ '['

instance (t : Text) : Decidable (IsLiteral t) :=
  List.decidableBAll _ t

/-- A pattern that is literal has its own characters as pieces. -/
theorem pieces_of_isLiteral (h : IsLiteral t) : pieces t = t.map .char := by
  induction t with
  | nil => rfl
  | cons c r ih =>
    obtain ⟨hstar, hmark, hbracket⟩ := h c (List.mem_cons_self ..)
    have hrest : pieces r = r.map .char := ih fun d hd => h d (List.mem_cons_of_mem c hd)
    rw [pieces, piecesFrom, if_neg hstar, if_neg hmark, if_neg hbracket, List.map_cons, ← hrest]
    rfl

section Joined

variable {back : Text} (hback : ']' ∉ back)

include hback

theorem dropWhile_of_unclosed : back.dropWhile (· != ']') = [] := by
  rw [List.dropWhile_eq_nil_iff]
  intro c hc
  exact bne_iff_ne.2 fun h => hback (h ▸ hc)

/-- What has no closing bracket is not the inside of a set. -/
theorem insideOfSet_eq_none : insideOfSet back = none := by
  cases back with
  | nil => rfl
  | cons c r =>
    rw [insideOfSet, dropWhile_of_unclosed fun h => hback (List.mem_cons_of_mem c h)]

theorem readSet_eq_none : readSet back = none := by
  rw [readSet.eq_def]
  split
  next r => rw [insideOfSet_eq_none fun h => hback (List.mem_cons_of_mem _ h), Option.map_none]
  · rw [insideOfSet_eq_none hback, Option.map_none]

/-- A set that is not closed in front is not closed by what follows. -/
theorem insideOfSet_append (t : Text) :
    insideOfSet (t ++ back) = (insideOfSet t).map fun s => (s.1, s.2 ++ back) := by
  cases t with
  | nil => exact insideOfSet_eq_none hback
  | cons c r =>
    simp only [List.cons_append, insideOfSet]
    rw [List.dropWhile_append, List.takeWhile_append, dropWhile_of_unclosed hback]
    cases hclosed : r.dropWhile (· != ']') with
    | nil => simp
    | cons d rest =>
      -- Something is left of the first text, so it is not taken as a whole.
      have hlength : (r.takeWhile (· != ']')).length ≠ r.length := by
        have h : (r.takeWhile (· != ']') ++ r.dropWhile (· != ']')).length = r.length :=
          congrArg List.length List.takeWhile_append_dropWhile
        rw [List.length_append, hclosed, List.length_cons] at h
        omega
      simp [hlength]

theorem readSet_append (t : Text) :
    readSet (t ++ back) = (readSet t).map fun s => (s.1, s.2 ++ back) := by
  cases t with
  | nil => exact readSet_eq_none hback
  | cons c r =>
    -- Behind an exclamation mark the inside begins one character later.
    by_cases hc : c = '!'
    · subst hc
      simp only [List.cons_append, readSet, insideOfSet_append hback, Option.map_map]
      rfl
    · have hread : ∀ v : Text, readSet (c :: v) =
          (insideOfSet (c :: v)).map fun s => (setOf false (itemsOf s.1), s.2) := by
        intro v
        rw [readSet]
        intro w hw
        exact hc (List.cons.inj hw).1
      have hinside := insideOfSet_append hback (c :: r)
      rw [List.cons_append] at hinside ⊢
      rw [hread, hread, hinside, Option.map_map, Option.map_map]
      rfl

/-- The pieces of two texts, behind the first characters of the first. The induction
goes over the first text; a set in it is read as if nothing followed. -/
theorem piecesFrom_append (t : Text) :
    ∀ skip ≤ t.length, piecesFrom skip (t ++ back) = piecesFrom skip t ++ piecesFrom 0 back := by
  induction t with
  | nil =>
    intro skip hskip
    obtain rfl : skip = 0 := Nat.le_zero.1 hskip
    rfl
  | cons c r ih =>
    intro skip hskip
    cases skip with
    | succ skip => exact ih skip (Nat.le_of_succ_le_succ hskip)
    | zero =>
      have hrest : piecesFrom 0 (r ++ back) = piecesFrom 0 r ++ piecesFrom 0 back :=
        ih 0 (Nat.zero_le _)
      rw [List.cons_append, piecesFrom, piecesFrom, readSet_append hback]
      by_cases hstar : c = '*'
      · simp only [if_pos hstar, hrest, List.cons_append]
      by_cases hmark : c = '?'
      · simp only [if_neg hstar, if_pos hmark, hrest, List.cons_append]
      by_cases hbracket : c = '['
      · simp only [if_neg hstar, if_neg hmark, if_pos hbracket]
        cases readSet r with
        | none => simp only [Option.map_none, hrest, List.cons_append]
        | some s =>
          -- As many characters belong to the set as without the second text.
          simp only [Option.map_some, List.length_append, Nat.add_sub_add_right]
          rw [ih _ (Nat.sub_le _ _), List.cons_append]
      · simp only [if_neg hstar, if_neg hmark, if_neg hbracket, hrest, List.cons_append]

/-- **The pieces of two texts in a row** are the pieces of each. -/
theorem pieces_append (t : Text) : pieces (t ++ back) = pieces t ++ pieces back :=
  piecesFrom_append hback t 0 (Nat.zero_le _)

end Joined

end Glob

end Desinence
