/-
The alphabet of words in hand and of stems.

The normal form of a text is a small one, and what the rules put behind a stem is
all that stages ever add. With small replacements every word in hand is small,
so removing its accents is a matter of single letters: the stem is as long as the
word after the last stage, plain, and as it is under either of the two passes.
-/
import Desinence.Portuguese
import Desinence.Proofs.Stemmer.Passage
import Desinence.Proofs.Word.Accents

set_option autoImplicit false

namespace Desinence

/-- A rule with a small replacement makes small words from small words. -/
theorem Rule.keeps_isSmall {r : Rule} (h : r.replacement.IsSmall) : r.Keeps Text.IsSmall := by
  intro p _ hp
  have hstem : Text.IsSmall p := (Text.isSmall_append.1 hp).1
  exact Text.isSmall_append.2 ⟨hstem, h⟩

/-- The table for Portuguese writes small letters only. -/
theorem Portuguese.isSmall_replacement : ∀ r ∈ Portuguese.table.rules, r.replacement.IsSmall := by
  decide +kernel

namespace Stemmer

/-- **Words in hand are small** where the replacements are. -/
theorem isSmall_through {s : Stemmer} (h : ∀ r ∈ s.table.rules, r.replacement.IsSmall) (k : Nat)
    (w : Text) : (s.through k w).IsSmall :=
  through_of_keeps (fun r hr => Rule.keeps_isSmall (h r hr)) k (Text.isSmall_normalised w)

/-- The stem without accents, from the word after the last stage. -/
theorem stem_eq_withoutAccents (t : Table) (w : Text) :
    (Stemmer.mk t true).stem w =
      ((Stemmer.mk t true).through t.length w).withoutAccents := by
  rw [stem_eq_finish_through, finish, if_pos rfl]

/-- **Which characters words and stems are made of.** Normal forms are made of
small letters and digits. Over a table that writes no others so is the word after
any number of stages; a stem without accents is plain, as long as the word after
the last stage, in normal form and without accents. The table for Portuguese is
such a table. -/
theorem alphabet_of_stem :
    (∀ w : Text, w.normalised.IsSmall) ∧
    (∀ t : Table, (∀ r ∈ t.rules, r.replacement.IsSmall) → ∀ w : Text,
      let s := Stemmer.mk t true
      (∀ k, (s.through k w).IsSmall) ∧
        (s.stem w).IsPlain ∧ (s.stem w).length = (s.through t.length w).length ∧
        (s.stem w).normalised = s.stem w ∧ (s.stem w).withoutAccents = s.stem w) ∧
    ∀ r ∈ Portuguese.table.rules, r.replacement.IsSmall := by
  refine ⟨Text.isSmall_normalised, ?_, Portuguese.isSmall_replacement⟩
  intro t h w s
  have hsmall : ∀ k, (s.through k w).IsSmall := fun k => isSmall_through h k w
  have hlast : (s.through t.length w).IsSmall := hsmall t.length
  have hstem : s.stem w = (s.through t.length w).withoutAccents := stem_eq_withoutAccents t w
  have hplain : (s.stem w).IsPlain := by
    rw [hstem]
    exact Text.isPlain_withoutAccents hlast
  have hlength : (s.stem w).length = (s.through t.length w).length := by
    rw [hstem]
    exact Text.length_withoutAccents hlast
  exact ⟨hsmall, hplain, hlength, Text.normalised_of_isSmall hplain.isSmall,
    Text.withoutAccents_of_isPlain hplain⟩

/-- Capitals, a kelvin sign, a dotted capital i, a letter with no accent to lose
and a replacement with a mark. -/
theorem alphabet_of_stem_mixed :
    let feminine : Stage := ⟨"Feminine".toList, 0, false, [], [⟨['a'], 2, "ã".toList, []⟩]⟩
    let t : Table := [feminine]
    let s : Stemmer := ⟨t, true⟩
    let w : Text := "Çß\u212A\u0130-Æa".toList
    (∀ r ∈ t.rules, r.replacement.IsSmall) ∧ s.through t.length w = "çßkiæã".toList ∧
      s.stem w = "cßkiæa".toList ∧ (s.stem w).IsPlain ∧
      (s.stem w).length = (s.through t.length w).length ∧
      (s.stem w).normalised = s.stem w ∧ (s.stem w).withoutAccents = s.stem w := by
  intro feminine t s w
  have hrules : ∀ r ∈ t.rules, r.replacement.IsSmall := by decide +kernel
  have hlast : s.through t.length w = "çßkiæã".toList := by decide +kernel
  have hstem : s.stem w = "cßkiæa".toList := by decide +kernel
  obtain ⟨-, htable, -⟩ := alphabet_of_stem
  obtain ⟨-, hplain, hlength, hnormal, hbare⟩ := htable t hrules w
  exact ⟨hrules, hlast, hstem, hplain, hlength, hnormal, hbare⟩

end Stemmer

end Desinence
