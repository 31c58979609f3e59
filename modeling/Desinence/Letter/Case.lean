/-
Small and capital letters.

`lower` and `upper` are the full case mappings of the standard, one character
at a time: a letter's other case is one character or, for a few letters, a
sequence of two or three. The standard also writes a word-final capital sigma
as `ς` and any other as `σ`; both are outside the alphabet of words (see
`Desinence.Word`), so one of them stands for both here.

`lower` and `upper` are the string methods of these names, as `normalize` and the
settings call them.
-/
import Desinence.Text
import Desinence.Letter.CaseRuns

set_option autoImplicit false

namespace Desinence

/-- The image of a code point under a list of runs, or the code point itself. -/
def mapRuns (runs : List CaseRun) (n : Nat) : Nat :=
  match runs.find? (fun r => r.covers n) with
  | some r => r.map n
  | none => n

/-- The case mapping of one character given by its sequences and its runs. -/
def mapCase (sequences : List (Nat × List Nat)) (runs : List CaseRun) (c : Char) : Text :=
  match sequences.lookup c.toNat with
  | some codes => codes.map Char.ofNat
  | none => [Char.ofNat (mapRuns runs c.toNat)]

/-- The small form of a character. -/
def lowerChar (c : Char) : Text :=
  mapCase lowerSequences lowerRuns c

/-- The capital form of a character. -/
def upperChar (c : Char) : Text :=
  mapCase upperSequences upperRuns c

namespace Text

/-- **The text in small letters.** -/
def lower (t : Text) : Text :=
  t.flatMap lowerChar

/-- **The text in capital letters.** -/
def upper (t : Text) : Text :=
  t.flatMap upperChar

theorem lower_append (s t : Text) : lower (s ++ t) = lower s ++ lower t := by
  simp [lower]

theorem upper_append (s t : Text) : upper (s ++ t) = upper s ++ upper t := by
  simp [upper]

end Text

end Desinence
