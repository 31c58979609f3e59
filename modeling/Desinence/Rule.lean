/-
Suffix rules, stages and rule tables.

A rule replaces one suffix. It is guarded twice: the stem in front of the suffix
must have a least length, and its exceptions veto it on the words they name. A
stage is a list of rules of which at most one fires, behind two gates of its
own; a table is the list of stages in the order they run.

The lengths are natural numbers. Whoever builds a rule or a stage from a number
that may be negative goes through `Rule.ofLength` and `Stage.ofLength`, which
refuse such a number.

`Rule` and `Stage` are the types of the same names, negative lengths refused by
their `__post_init__`. `Rule.applies` is `can_apply_rule`, `Rule.apply` is
`apply_rule`, `Stage.apply` is `_apply_stage`.
-/
import Desinence.Text
import Desinence.Text.Decimal

set_option autoImplicit false

namespace Desinence

/-! ## Values -/

/-- **A suffix rule.** `suffix` may be empty, and then matches every word;
`minStem` is the least length of what is left in front of it. -/
structure Rule where
  suffix : Text
  minStem : Nat
  replacement : Text
  exceptions : List Text
  deriving Repr, DecidableEq

/-- **A stage.** Words shorter than `minWord` pass it unchanged, and so do words
that end with none of its `conditions`, if it has any. Under `wholeWord` the
rules' exceptions are compared with the whole word, otherwise with its end. -/
structure Stage where
  name : Text
  minWord : Nat
  wholeWord : Bool
  conditions : List Text
  rules : List Rule
  deriving Repr, DecidableEq

/-- A rule table: stages in the order in which they run. -/
abbrev Table := List Stage

/-- The number of rules in all stages. -/
def Table.ruleCount (t : Table) : Nat :=
  t.foldr (fun s n => s.rules.length + n) 0

/-! ## Lengths that may be negative -/

/-- The two length guards of a table. -/
inductive LengthGuard
  | stem
  | word
  deriving Repr, DecidableEq

/-- The name a length guard goes by in messages. -/
def LengthGuard.name : LengthGuard → Text
  | .stem => "min_stem_length".toList
  | .word => "min_word_length".toList

/-- A guard that was given a negative length. -/
structure NegativeLength where
  guardedBy : LengthGuard
  value : Int
  deriving Repr, DecidableEq

/-- What is said about a negative length. A number too long for a numeral is not
shown. -/
def NegativeLength.message (e : NegativeLength) : Text :=
  let shown := Text.ofInt e.value
  if shown.length ≤ numeralLimit + 1 then e.guardedBy.name ++ " must be >= 0, got ".toList ++ shown
  else
    "Exceeds the limit (".toList ++ Text.ofNat numeralLimit ++
      " digits) for integer string conversion; ".toList ++
      "use sys.set_int_max_str_digits() to increase the limit".toList

/-- The natural number that an integer is, or the guard's refusal. -/
def LengthGuard.check (g : LengthGuard) : Int → Except NegativeLength Nat
  | .ofNat n => .ok n
  | .negSucc n => .error ⟨g, .negSucc n⟩

/-- A rule whose stem length may turn out negative. -/
def Rule.ofLength (suffix : Text) (minStem : Int) (replacement : Text) (exceptions : List Text) :
    Except NegativeLength Rule := do
  return ⟨suffix, ← LengthGuard.stem.check minStem, replacement, exceptions⟩

/-- A stage whose word length may turn out negative. -/
def Stage.ofLength (name : Text) (minWord : Int) (wholeWord : Bool) (conditions : List Text)
    (rules : List Rule) : Except NegativeLength Stage := do
  return ⟨name, ← LengthGuard.word.check minWord, wholeWord, conditions, rules⟩

/-- A guard refuses exactly the negative integers. -/
theorem LengthGuard.check_eq_ok_iff {g : LengthGuard} {i : Int} {n : Nat} :
    g.check i = .ok n ↔ i = n := by
  cases i with
  | ofNat m =>
    rw [LengthGuard.check, Except.ok.injEq]
    exact Int.ofNat_inj.symm
  | negSucc m => simp only [LengthGuard.check, reduceCtorEq]

/-! ## Application -/

namespace Rule

/-- Whether an exception of the rule names the word: as a whole or, failing
`wholeWord`, by its end. -/
def vetoes (r : Rule) (wholeWord : Bool) (w : Text) : Bool :=
  r.exceptions.any fun e => if wholeWord then w == e else w.endsWith e

/-- **Applicability**: the suffix matches, no exception names the word, and
enough of it is left in front of the suffix. -/
def applies (r : Rule) (wholeWord : Bool) (w : Text) : Bool :=
  w.endsWith r.suffix && !r.vetoes wholeWord w && r.suffix.length + r.minStem ≤ w.length

/-- How many characters of the word the rule keeps. A suffix longer than the
word takes its excess off the word once more. -/
def keptLength (r : Rule) (w : Text) : Nat :=
  if r.suffix.length ≤ w.length then w.length - r.suffix.length
  else 2 * w.length - r.suffix.length

/-- **The word after the rule**: its stem and then the replacement. -/
def apply (r : Rule) (w : Text) : Text :=
  w.take (r.keptLength w) ++ r.replacement

/-- On a word that ends with the suffix, the rule trades the suffix for the
replacement. -/
theorem apply_append (r : Rule) (p : Text) : r.apply (p ++ r.suffix) = p ++ r.replacement := by
  simp [apply, keptLength]

/-- The three conditions of applicability, one by one. -/
theorem applies_iff {r : Rule} {whole : Bool} {w : Text} :
    r.applies whole w = true ↔
      r.suffix <:+ w ∧ r.vetoes whole w = false ∧ r.suffix.length + r.minStem ≤ w.length := by
  simp [applies, Text.endsWith_iff, and_assoc]

end Rule

namespace Stage

/-- Whether the gates of the stage let the word in. -/
def admits (s : Stage) (w : Text) : Bool :=
  s.minWord ≤ w.length && (s.conditions.isEmpty || s.conditions.any fun c => w.endsWith c)

/-- The first rule that applies to the word. -/
def firing (s : Stage) (w : Text) : Option Rule :=
  s.rules.find? fun r => r.applies s.wholeWord w

/-- **The word after the stage**: the firing rule's doing if the gates let the
word in, otherwise the word as it is. -/
def apply (s : Stage) (w : Text) : Text :=
  if s.admits w then
    match s.firing w with
    | some r => r.apply w
    | none => w
  else w

theorem apply_of_not_admits {s : Stage} {w : Text} (h : s.admits w = false) : s.apply w = w := by
  simp [apply, h]

theorem apply_of_firing {s : Stage} {w : Text} {r : Rule} (h : s.admits w = true)
    (hr : s.firing w = some r) : s.apply w = r.apply w := by
  simp [apply, h, hr]

theorem apply_of_firing_eq_none {s : Stage} {w : Text} (h : s.firing w = none) :
    s.apply w = w := by
  simp [apply, h]

end Stage

namespace Table

/-- The word, and the word after each further stage. -/
def passes : Table → Text → List Text
  | [], w => [w]
  | s :: t, w => w :: passes t (s.apply w)

/-- **The word after all stages.** -/
def run (t : Table) (w : Text) : Text :=
  t.foldl (fun u s => s.apply u) w

@[simp] theorem run_nil (w : Text) : run [] w = w := rfl

@[simp] theorem run_cons (s : Stage) (t : Table) (w : Text) :
    run (s :: t) w = run t (s.apply w) := rfl

/-- There is one more word than stages. -/
theorem length_passes (t : Table) (w : Text) : (passes t w).length = t.length + 1 := by
  induction t generalizing w with
  | nil => rfl
  | cons s t ih => simp [passes, ih]

/-- The last of the words is the one after all stages. -/
theorem getLast?_passes (t : Table) (w : Text) : (passes t w).getLast? = some (run t w) := by
  induction t generalizing w with
  | nil => rfl
  | cons s t ih =>
    have hne : passes t (s.apply w) ≠ [] := by
      intro h
      have := length_passes t (s.apply w)
      simp [h] at this
    rw [passes, List.getLast?_cons, ih, run_cons]
    simp

end Table

end Desinence
