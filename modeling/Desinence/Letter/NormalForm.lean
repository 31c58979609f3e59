/-
Canonical normal forms.

`decomposed` (form D) takes every composite apart and puts the marks of each
starter into ascending order of class; `composed` (form C) then joins each
starter with the following characters that it combines with, unless an earlier
mark of the same or a higher class stands between them.

Hangul syllables are arithmetic. A leading consonant, a vowel and an optional
trailing consonant number the syllables from U+AC00 in the mixed radix
19, 21, 28, where trailing index zero stands for none.

`decomposed` and `composed` are the forms NFD and NFC of `unicodedata.normalize`,
which `strip_accents` goes through.
-/
import Desinence.Text
import Desinence.Letter.Composites
import Desinence.Letter.MarkRanges

set_option autoImplicit false

namespace Desinence

/-! ## Classes -/

/-- The canonical combining class; zero for a starter. -/
def combiningClass (c : Char) : Nat :=
  let n := c.toNat
  if n < 0x300 then 0
  else match markRanges.find? (fun r => r.1 ≤ n && n ≤ r.2.1) with
    | some r => r.2.2
    | none => 0

/-- A starter is a character of class zero. -/
def isStarter (c : Char) : Bool :=
  combiningClass c == 0

/-! ## Hangul -/

namespace Hangul

/-- First syllable. -/
def syllableBase : Nat := 0xAC00
/-- First leading consonant. -/
def leadBase : Nat := 0x1100
/-- First vowel. -/
def vowelBase : Nat := 0x1161
/-- One before the first trailing consonant. -/
def trailBase : Nat := 0x11A7
/-- Number of leading consonants. -/
def leadCount : Nat := 19
/-- Number of vowels. -/
def vowelCount : Nat := 21
/-- Number of trailing consonants, counting none as one. -/
def trailCount : Nat := 28
/-- Number of syllables. -/
def syllableCount : Nat := leadCount * vowelCount * trailCount

/-- The letters of a syllable, two or three of them. -/
def parts? (n : Nat) : Option (List Nat) :=
  if syllableBase ≤ n && n < syllableBase + syllableCount then
    let i := n - syllableBase
    let lead := leadBase + i / (vowelCount * trailCount)
    let vowel := vowelBase + i % (vowelCount * trailCount) / trailCount
    let trail := i % trailCount
    some (if trail = 0 then [lead, vowel] else [lead, vowel, trailBase + trail])
  else none

/-- A leading consonant with a vowel, or a syllable without a trailing consonant
with one. -/
def join? (a b : Nat) : Option Nat :=
  if leadBase ≤ a && a < leadBase + leadCount && vowelBase ≤ b && b < vowelBase + vowelCount then
    some (syllableBase + ((a - leadBase) * vowelCount + (b - vowelBase)) * trailCount)
  else if syllableBase ≤ a && a < syllableBase + syllableCount &&
      (a - syllableBase) % trailCount == 0 && trailBase < b && b < trailBase + trailCount then
    some (a + (b - trailBase))
  else none

end Hangul

/-! ## One character -/

/-- **The full canonical decomposition of a character**, itself if it has none. -/
def decomposeChar (c : Char) : Text :=
  match Hangul.parts? c.toNat with
  | some codes => codes.map Char.ofNat
  | none =>
    match (decompositionBlocks.lookup (c.toNat / 64)).bind (·.lookup c.toNat) with
    | some codes => codes.map Char.ofNat
    | none => [c]

/-- **The character that two characters combine into**, if they do. -/
def composePair? (a b : Char) : Option Char :=
  match Hangul.join? a.toNat b.toNat with
  | some n => some (Char.ofNat n)
  | none =>
    ((compositionGroups.lookup b.toNat).bind (·.lookup a.toNat)).map Char.ofNat

/-! ## Texts -/

/-- Puts a character in front of an ordered text: a mark moves behind the marks
of lower class that it meets, and nothing moves past a starter. -/
def insertMark (c : Char) : Text → Text
  | [] => [c]
  | d :: r =>
    if combiningClass d ≠ 0 ∧ combiningClass d < combiningClass c then d :: insertMark c r
    else c :: d :: r

/-- The text with the marks of each starter in ascending order of class, marks
of one class in the order they had. -/
def orderMarks (t : Text) : Text :=
  t.foldr insertMark []

/-- **Form D.** -/
def decomposed (t : Text) : Text :=
  orderMarks (t.flatMap decomposeChar)

/-- Joins a starter with what follows it. `passed` holds the characters after
`starter` that did not combine with it; only the last of them can block the
next one, because their classes ascend. -/
def composeFrom (starter : Char) (passed : Text) : Text → Text
  | [] => starter :: passed
  | c :: r =>
    let blocked := match passed.getLast? with
      | none => false
      | some d => combiningClass c ≤ combiningClass d
    match (if blocked then none else composePair? starter c) with
    | some s => composeFrom s passed r
    | none =>
      if isStarter c then starter :: passed ++ composeFrom c [] r
      else composeFrom starter (passed ++ [c]) r

/-- Joins every starter of an ordered text with what follows it. Marks in front
of the first starter stay as they are. -/
def composeText : Text → Text
  | [] => []
  | c :: r => if isStarter c then composeFrom c [] r else c :: composeText r

/-- **Form C.** -/
def composed (t : Text) : Text :=
  composeText (decomposed t)

end Desinence
