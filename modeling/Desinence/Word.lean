/-
Words, their normal form and their accents.

A word is kept in small letters of ASCII and of the Latin-1 block, and in
digits. `normalised` brings any text into that alphabet: it takes the small form
of every character and drops what is no letter or digit then. `withoutAccents`
removes the marks of a text: taken apart in form D, freed of every character of
non-zero class, and put together again in form C.

`normalised` is `normalize`, `withoutAccents` is `strip_accents`.
-/
import Desinence.Letter.Case
import Desinence.Letter.NormalForm

set_option autoImplicit false

namespace Desinence

/-- **Letters and digits of words**: ASCII letters, the letters of Latin-1 (that
is U+00C0 to U+00FF without the signs for times and divided by), ASCII
digits. -/
def isWordChar (c : Char) : Bool :=
  let n := c.toNat
  (0x61 ≤ n && n ≤ 0x7A) || (0x41 ≤ n && n ≤ 0x5A) || (0xC0 ≤ n && n ≤ 0xD6) ||
    (0xD8 ≤ n && n ≤ 0xF6) || (0xF8 ≤ n && n ≤ 0xFF) || (0x30 ≤ n && n ≤ 0x39)

namespace Text

/-- **The normal form of a word.** -/
def normalised (t : Text) : Text :=
  (lower t).filter isWordChar

/-- **The text without its accents**, and without any other mark. -/
def withoutAccents (t : Text) : Text :=
  composed ((decomposed t).filter isStarter)

@[simp] theorem normalised_nil : normalised [] = [] := rfl

/-- What happens to one character does not depend on its neighbours. -/
theorem normalised_append (s t : Text) : normalised (s ++ t) = normalised s ++ normalised t := by
  simp [normalised, lower_append]

end Text

end Desinence
