/-
Characters that leave no trace.

Normalising goes character by character, so it is a homomorphism, and since it
lands among texts that it leaves alone it is idempotent. A character whose own
normal form is empty is silent: a word with any number of them put in at any
places has the normal form of the word, and the stages see nothing else.
-/
import Desinence.Proofs.Word.Lower
import Desinence.Stemmer

set_option autoImplicit false

namespace Desinence

namespace Text

/-- A silent character: nothing of it is left in a normal form. -/
def IsSilent (c : Char) : Prop :=
  normalised [c] = []

instance (c : Char) : Decidable (IsSilent c) :=
  inferInstanceAs (Decidable (normalised [c] = []))

/-- **Silent characters put in**: `Interspersed w v` says that `v` is `w` with any
number of silent characters more, at any places. -/
inductive Interspersed : Text → Text → Prop
  | nil : Interspersed [] []
  | keep (c : Char) {w v : Text} : Interspersed w v → Interspersed (c :: w) (c :: v)
  | insert {c : Char} {w v : Text} : IsSilent c → Interspersed w v → Interspersed w (c :: v)

/-- What was there before is still there, in its order. -/
theorem Interspersed.sublist {w v : Text} (h : Interspersed w v) : List.Sublist w v := by
  induction h with
  | nil => exact .slnil
  | keep c _ ih => exact ih.cons_cons c
  | insert _ _ ih => exact ih.cons _

/-- **Silent characters do not show in the normal form.** -/
theorem Interspersed.normalised_eq {w v : Text} (h : Interspersed w v) :
    normalised v = normalised w := by
  induction h with
  | nil => rfl
  | keep c _ ih => rw [normalised_cons, normalised_cons, ih]
  | @insert c w v hc _ ih =>
    rw [← List.singleton_append, normalised_append, hc, List.nil_append, ih]

end Text

namespace Stemmer

open Text (Interspersed lowerInContext)

/-- **Stems do not depend on silent characters.** The normal form of a text,
however sigma is written, goes piece by piece and is its own normal form, and a
stemmer of any table and of either mind about accents gives a word the same stem
with silent characters anywhere in it. -/
theorem stem_of_interspersed :
    (∀ (cased ignorable : Char → Bool) (t : Text),
      Text.strip ((lowerInContext cased ignorable t).filter isWordChar) = t.normalised) ∧
    (∀ u v : Text, Text.normalised (u ++ v) = u.normalised ++ v.normalised) ∧
    (∀ u : Text, u.normalised.normalised = u.normalised) ∧
    ∀ (s : Stemmer) (w v : Text), w ≠ [] → Interspersed w v → s.stem v = s.stem w := by
  refine ⟨?_, Text.normalised_append, ?_, ?_⟩
  · intro cased ignorable t
    exact Text.strip_filter_lowerInContext cased ignorable t
  · intro u
    exact Text.normalised_of_isSmall (Text.isSmall_normalised u)
  · intro s w v hw h
    -- A stemmer asks first whether there is anything at all, and the answer is the same for both.
    have hv : v ≠ [] := by
      intro hnil
      have hsub := h.sublist
      rw [hnil, List.sublist_nil] at hsub
      exact hw hsub
    rw [stem_of_ne_nil hv, stem_of_ne_nil hw, h.normalised_eq]

/-- Sign, blank, combining mark, a letter of another script, in front, inside and
behind. -/
theorem stem_of_interspersed_signs :
    let plural : Stage := ⟨"Plural".toList, 3, false, [['s']], [⟨['s'], 2, [], []⟩]⟩
    let s : Stemmer := ⟨[plural], true⟩
    let w : Text := "Avós".toList
    let v : Text := "«A\u0301v Σó-s»".toList
    Interspersed w v ∧ w ≠ [] ∧ s.stem w = "avo".toList ∧ s.stem v = "avo".toList := by
  intro plural s w v
  have hquote : Text.IsSilent '«' := by decide +kernel
  have hmark : Text.IsSilent '\u0301' := by decide +kernel
  have hblank : Text.IsSilent ' ' := by decide +kernel
  have hsigma : Text.IsSilent 'Σ' := by decide +kernel
  have hhyphen : Text.IsSilent '-' := by decide +kernel
  have hclosing : Text.IsSilent '»' := by decide +kernel
  have hv : Interspersed w v := by
    refine .insert hquote (.keep 'A' (.insert hmark (.keep 'v' ?_)))
    refine .insert hblank (.insert hsigma (.keep 'ó' ?_))
    exact .insert hhyphen (.keep 's' (.insert hclosing .nil))
  have hne : w ≠ [] := List.cons_ne_nil _ _
  have hstem : s.stem w = "avo".toList := by decide +kernel
  obtain ⟨-, -, -, hsame⟩ := stem_of_interspersed
  exact ⟨hv, hne, hstem, (hsame s w v hne hv).trans hstem⟩

end Stemmer

end Desinence
