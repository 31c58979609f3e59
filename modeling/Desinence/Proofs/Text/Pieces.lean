/-
The pieces of a text.

Splitting at a character and joining with it are `splitOn` and `intercalate` of
the library, so its laws hold of them: a separator between two texts divides the
pieces of the one from those of the other, and pieces that are free of the
separator come back as they were joined. Counting is then a matter of lists, a
text has one piece more than it has separators.
-/
import Desinence.Text

set_option autoImplicit false

namespace Desinence

namespace Text

variable {sep : Char}

/-! ## The library's splitting and joining -/

theorem splitAt_eq_splitOn (sep : Char) (t : Text) : splitAt sep t = t.splitOn sep := by
  induction t with
  | nil => rfl
  | cons c r ih =>
    rw [splitAt, List.splitOn, List.splitOnP_cons_eq_if_modifyHead, ← List.splitOn, ← ih]
    by_cases hc : c = sep
    · rw [if_pos hc, if_pos (beq_iff_eq.2 hc)]
    · rw [if_neg hc, if_neg (fun h => hc (beq_iff_eq.1 h))]
      cases hp : splitAt sep r with
      | nil => exact absurd hp (splitAt_ne_nil sep r)
      | cons p ps => rfl

theorem joinWith_eq_intercalate (sep : Text) (ps : List Text) :
    joinWith sep ps = sep.intercalate ps := by
  induction ps with
  | nil => rfl
  | cons p ps ih =>
    cases ps with
    | nil => rw [joinWith, List.intercalate_singleton]
    | cons q qs => rw [joinWith, List.intercalate_cons_cons, ih]

/-! ## What a joined text holds -/

/-- What is joined stands in the text. -/
theorem isInfix_joinWith {sep t : Text} {ts : List Text} (h : t ∈ ts) :
    t <:+: joinWith sep ts := by
  induction ts with
  | nil => exact absurd h List.not_mem_nil
  | cons u us ih =>
    cases us with
    | nil =>
      rw [List.mem_singleton.1 h]
      exact List.infix_rfl
    | cons v vs =>
      rw [joinWith]
      obtain rfl | h := List.mem_cons.1 h
      · exact (List.prefix_append _ _).isInfix.trans (List.prefix_append _ _).isInfix
      · exact (ih h).trans (List.suffix_append _ _).isInfix

/-- What stands in a joined list stands in a separator or in an item. -/
theorem mem_joinWith {sep : Text} {ts : List Text} {c : Char} (h : c ∈ joinWith sep ts) :
    c ∈ sep ∨ ∃ t ∈ ts, c ∈ t := by
  induction ts with
  | nil => simp [joinWith] at h
  | cons t ts ih =>
    cases ts with
    | nil =>
      rw [joinWith] at h
      exact .inr ⟨t, List.mem_cons_self, h⟩
    | cons u us =>
      rw [joinWith, List.mem_append, List.mem_append] at h
      rcases h with (h | h) | h
      · exact .inr ⟨t, List.mem_cons_self, h⟩
      · exact .inl h
      · rcases ih h with h | ⟨v, hv, hc⟩
        · exact .inl h
        · exact .inr ⟨v, List.mem_cons_of_mem _ hv, hc⟩

/-! ## Boundaries -/

/-- **A separator is a boundary**: nothing in front of it and nothing behind it
has to do with the pieces on its other side. -/
theorem splitAt_append_cons (a b : Text) :
    splitAt sep (a ++ sep :: b) = splitAt sep a ++ splitAt sep b := by
  rw [splitAt_eq_splitOn, splitAt_eq_splitOn, splitAt_eq_splitOn, List.splitOn_append_cons_self]

/-- Pieces that are free of the separator come back from the joined text. -/
theorem splitAt_joinWith {ps : List Text} (hne : ps ≠ []) (h : ∀ p ∈ ps, sep ∉ p) :
    splitAt sep (joinWith [sep] ps) = ps := by
  rw [splitAt_eq_splitOn, joinWith_eq_intercalate, List.splitOn_intercalate sep h hne]

/-- Between two lists of pieces there is one more separator. -/
theorem joinWith_append {s : Text} {ps qs : List Text} (hp : ps ≠ []) (hq : qs ≠ []) :
    joinWith s (ps ++ qs) = joinWith s ps ++ s ++ joinWith s qs := by
  induction ps with
  | nil => exact absurd rfl hp
  | cons p ps ih =>
    cases ps with
    | nil =>
      cases qs with
      | nil => exact absurd rfl hq
      | cons q qs => rfl
    | cons p' ps =>
      have hrest := ih (List.cons_ne_nil p' ps)
      simp only [List.cons_append, joinWith, List.append_assoc] at hrest ⊢
      rw [hrest]

/-- **A text has one piece more than it has separators.** -/
theorem length_splitAt (sep : Char) (t : Text) :
    (splitAt sep t).length = t.count sep + 1 := by
  induction t with
  | nil => rfl
  | cons c r ih =>
    rw [splitAt]
    by_cases hc : c = sep
    · subst hc
      rw [if_pos rfl, List.length_cons, ih, List.count_cons_self]
    · rw [if_neg hc, List.count_cons_of_ne hc]
      cases hp : splitAt sep r with
      | nil => exact absurd hp (splitAt_ne_nil sep r)
      | cons p ps =>
        rw [hp] at ih
        exact ih

end Text

end Desinence
