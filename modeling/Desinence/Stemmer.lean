/-
Stemming.

A stemmer is a rule table together with the choice whether accents are removed
at the end. The stem of a word is its normal form, taken through all stages, and
then through the removal of accents. The empty text is its own stem: no stage
sees it, not even one with a rule for the empty suffix.

`Stemmer` is `RSLPStemmer`, `stem` its method of that name, and `stemText` the
service's `stem_text`.
-/
import Desinence.Rule
import Desinence.Word

set_option autoImplicit false

namespace Desinence

/-- A table and what to do with accents. -/
structure Stemmer where
  table : Table
  removeAccents : Bool
  deriving Repr, DecidableEq

namespace Stemmer

/-- The last step of stemming. -/
def finish (s : Stemmer) (w : Text) : Text :=
  if s.removeAccents then w.withoutAccents else w

/-- The normal form of a word and the words after each stage. -/
def trace (s : Stemmer) (w : Text) : List Text :=
  s.table.passes w.normalised

/-- **The stem of a word.** -/
def stem (s : Stemmer) (w : Text) : Text :=
  if w.isEmpty then w else s.finish (s.table.run w.normalised)

/-- **The stems of a text**: every piece between spaces is stemmed by itself and
the spaces stay where they are. -/
def stemText (s : Stemmer) (t : Text) : Text :=
  Text.joinWith [' '] ((t.splitAt ' ').map s.stem)

theorem stem_nil (s : Stemmer) : s.stem [] = [] := rfl

theorem stem_of_ne_nil {s : Stemmer} {w : Text} (h : w ≠ []) :
    s.stem w = s.finish (s.table.run w.normalised) := by
  simp [stem, h]

end Stemmer

end Desinence
