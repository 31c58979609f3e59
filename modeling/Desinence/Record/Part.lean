/-
The parts of a record.

A record is one line of a table file, built of braces, quoted fields, numerals
and commas, with blanks allowed around each. The readers below take one part off
the front of a text and return it with the rest. None of them ever has two ways
to go: a quoted field ends at the next quote mark, a braced list at the next
closing brace, a numeral before the next character that is no digit.

`quotedItems` reads the list inside the braces more freely. It goes from quote
mark to quote mark and ignores all that stands between the items; a quote mark
right after an opening one opens again, so no item is empty.

The readers together are the patterns `_HEADER_RE` and `_RULE_RE`; `quotedItems`
is `_quoted_strings` with its `_QUOTED_RE`.
-/
import Desinence.Text.Blank
import Desinence.Text.Decimal

set_option autoImplicit false

namespace Desinence

namespace Record

/-- The rest after one given character. -/
def readChar (c : Char) : Text → Option Text
  | [] => none
  | d :: r => if d = c then some r else none

theorem readChar_eq_some_iff {c : Char} {t r : Text} : readChar c t = some r ↔ t = c :: r := by
  cases t with
  | nil => simp [readChar]
  | cons d s => by_cases h : d = c <;> simp [readChar, h]

/-- The rest after a comma and the blanks on its two sides. -/
def readComma (t : Text) : Option Text :=
  (readChar ',' t.skipBlanks).map Text.skipBlanks

/-- What stands before the next `stop`, and the rest after that. -/
def readUntil (stop : Char) (t : Text) : Option (Text × Text) :=
  (readChar stop (t.dropWhile (· != stop))).map fun r => (t.takeWhile (· != stop), r)

/-- What stands in front of the stop holds none. -/
theorem readUntil_eq_some_iff {stop : Char} {t body r : Text} :
    readUntil stop t = some (body, r) ↔ t = body ++ stop :: r ∧ stop ∉ body := by
  constructor
  · intro h
    simp only [readUntil, Option.map_eq_some_iff, readChar_eq_some_iff, Prod.mk.injEq] at h
    obtain ⟨r', hr, rfl, rfl⟩ := h
    refine ⟨?_, fun hm => ?_⟩
    · rw [← hr, List.takeWhile_append_dropWhile]
    · simpa using List.all_eq_true.1 List.all_takeWhile stop hm
  · rintro ⟨rfl, hb⟩
    have h : ∀ c ∈ body, (c != stop) = true := fun c hc => by
      simpa using fun he : c = stop => hb (he ▸ hc)
    simp [readUntil, List.takeWhile_append_of_pos h, List.dropWhile_append_of_pos h, readChar]

/-- **What stands between two marks**, and the rest after the second. -/
def readBetween (opening closing : Char) (t : Text) : Option (Text × Text) :=
  (readChar opening t).bind (readUntil closing)

/-- What stands between the marks does not hold the second. -/
theorem readBetween_eq_some_iff {opening closing : Char} {t body r : Text} :
    readBetween opening closing t = some (body, r) ↔
      t = opening :: body ++ closing :: r ∧ closing ∉ body := by
  simp only [readBetween, Option.bind_eq_some_iff, readChar_eq_some_iff, readUntil_eq_some_iff]
  constructor
  · rintro ⟨_, rfl, rfl, h⟩
    exact ⟨rfl, h⟩
  · rintro ⟨rfl, h⟩
    exact ⟨_, rfl, rfl, h⟩

/-- A field in quote marks, which may be empty. -/
def readQuoted : Text → Option (Text × Text) :=
  readBetween '"' '"'

/-- The inside of a list in braces. -/
def readBraced : Text → Option (Text × Text) :=
  readBetween '{' '}'

/-- A numeral of at least one digit. -/
def readNumeral (t : Text) : Option (Text × Text) :=
  match t.takeWhile isDigit with
  | [] => none
  | d :: ds => some (d :: ds, t.dropWhile isDigit)

/-- A numeral is as long as it can be. -/
theorem readNumeral_eq_some_iff {t digits r : Text} :
    readNumeral t = some (digits, r) ↔
      t = digits ++ r ∧ digits ≠ [] ∧ (∀ c ∈ digits, isDigit c = true) ∧
        ∀ c ∈ r.head?, isDigit c = false := by
  constructor
  · intro h
    unfold readNumeral at h
    split at h
    next => simp at h
    next d ds hd =>
      simp only [Option.some.injEq, Prod.mk.injEq] at h
      obtain ⟨rfl, rfl⟩ := h
      refine ⟨by rw [← hd, List.takeWhile_append_dropWhile], by simp, ?_, fun c hc => ?_⟩
      · rw [← hd]
        exact fun c hc => List.all_eq_true.1 List.all_takeWhile c hc
      · have := List.head?_dropWhile_not isDigit t
        rw [Option.mem_def.1 hc] at this
        simpa using this
  · rintro ⟨rfl, hne, hd, hr⟩
    have htake : r.takeWhile isDigit = [] := by
      cases r with
      | nil => rfl
      | cons c r => simp [hr c rfl]
    have hdrop : r.dropWhile isDigit = r := by
      cases r with
      | nil => rfl
      | cons c r => simp [hr c rfl]
    unfold readNumeral
    rw [List.takeWhile_append_of_pos hd, htake, List.append_nil, List.dropWhile_append_of_pos hd,
      hdrop]
    cases digits with
    | nil => exact absurd rfl hne
    | cons d ds => rfl

/-- An optional part behind a comma. Where it is missing or broken, nothing is
read. -/
def readOptional (part : Text → Option (Text × Text)) (t : Text) : Option Text × Text :=
  match (readComma t).bind part with
  | some (body, r) => (some body, r)
  | none => (none, t)

/-- The items of a list. `opened` holds the item that is being read, from its
quote mark on; an item that is never closed is none. -/
def itemsFrom (opened : Option Text) : Text → List Text
  | [] => []
  | c :: r =>
    match opened with
    | none => itemsFrom (if c = '"' then some [] else none) r
    | some item =>
      if c = '"' then
        if item.isEmpty then itemsFrom (some []) r else item :: itemsFrom none r
      else itemsFrom (some (item ++ [c])) r

/-- **The texts of a quoted list**: the items without the blanks at their ends,
and without those that are nothing but blanks. -/
def quotedItems (t : Text) : List Text :=
  ((itemsFrom none t).map Text.strip).filter (!·.isEmpty)

end Record

end Desinence
