/-
Text as lists of characters.

Every word, line, file and message of this library is a `Text`, a list of
Unicode scalar values. Suffixes, cuts and counts are then the list operations
`isSuffixOf`, `take` and `length`, so that a length is a number of characters
and never of bytes, and the list lemmas apply unchanged.
-/

set_option autoImplicit false

namespace Desinence

/-- A text is the list of its characters. -/
abbrev Text := List Char

namespace Text

/-- **Suffix test.** `t.endsWith s` says that `s` is a suffix of `t`; every text
ends with the empty one. -/
def endsWith (t s : Text) : Bool :=
  s.isSuffixOf t

theorem endsWith_iff {t s : Text} : t.endsWith s = true ↔ s <:+ t := by
  simp [endsWith]

/-- The texts joined with a separator between neighbours. -/
def joinWith (sep : Text) : List Text → Text
  | [] => []
  | [t] => t
  | t :: u :: ts => t ++ sep ++ joinWith sep (u :: ts)

/-- **Order by code point**, the first difference decides; a text comes before
its continuations. -/
def le : Text → Text → Bool
  | [], _ => true
  | _ :: _, [] => false
  | a :: s, b :: t => a < b || (a == b && le s t)

/-- Puts a text into a list in order, in front of the first that is not before
it. -/
def insertInOrder (t : Text) : List Text → List Text
  | [] => [t]
  | u :: us => if le t u then t :: u :: us else u :: insertInOrder t us

/-- **The texts in ascending order.** -/
def sorted (ts : List Text) : List Text :=
  ts.foldr insertInOrder []

/-- The text, filled with blanks on the right to at least `width` characters. -/
def padRight (width : Nat) (t : Text) : Text :=
  t ++ List.replicate (width - t.length) ' '

/-- The text, filled with blanks on the left to at least `width` characters. -/
def padLeft (width : Nat) (t : Text) : Text :=
  List.replicate (width - t.length) ' ' ++ t

/-- The pieces between the occurrences of a character; `n` occurrences give
`n + 1` pieces, some of them perhaps empty. -/
def splitAt (sep : Char) : Text → List Text
  | [] => [[]]
  | c :: r =>
    if c = sep then [] :: splitAt sep r
    else match splitAt sep r with
      | [] => [[c]]
      | p :: ps => (c :: p) :: ps

/-! ## Small facts -/

/-- A text has at least one piece. -/
theorem splitAt_ne_nil (sep : Char) (t : Text) : splitAt sep t ≠ [] := by
  induction t with
  | nil => simp [splitAt]
  | cons c r ih =>
    unfold splitAt
    split
    · simp
    · split <;> simp

/-- The pieces, joined again, are the text. -/
theorem joinWith_splitAt (sep : Char) (t : Text) : joinWith [sep] (splitAt sep t) = t := by
  induction t with
  | nil => rfl
  | cons c r ih =>
    unfold splitAt
    split
    next h =>
      subst h
      cases hp : splitAt c r with
      | nil => exact absurd hp (splitAt_ne_nil c r)
      | cons p ps => simpa [joinWith, hp] using ih
    next =>
      cases hp : splitAt sep r with
      | nil => exact absurd hp (splitAt_ne_nil sep r)
      | cons p ps =>
        rw [hp] at ih
        cases ps with
        | nil => simpa [joinWith] using ih
        | cons q qs => simpa [joinWith] using ih

/-- Inserting adds just the one text. -/
theorem perm_insertInOrder (t : Text) (us : List Text) : (insertInOrder t us).Perm (t :: us) := by
  induction us with
  | nil => exact .refl _
  | cons u us ih =>
    unfold insertInOrder
    split
    · exact .refl _
    · exact (ih.cons u).trans (.swap t u us)

/-- Sorting loses and adds nothing. -/
theorem perm_sorted (ts : List Text) : (sorted ts).Perm ts := by
  induction ts with
  | nil => exact .refl _
  | cons t ts ih => exact (perm_insertInOrder t _).trans (ih.cons t)

end Text

end Desinence
