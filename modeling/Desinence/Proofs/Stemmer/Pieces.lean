/-
The pieces of a stemmed text.

A text is stemmed piece by piece, so a space between two texts stays between
their stems. More can be said if no replacement has a space. Then no stem has
one: the normal form has none, no trade brings one in, and the space is a solid
character, which the removal of accents does not make. The stems are then again
the pieces of the stemmed text, one for each piece of the text and in its place.
-/
import Desinence.Proofs.Letter.Parts
import Desinence.Proofs.Stemmer.Passage
import Desinence.Proofs.Text.Pieces

set_option autoImplicit false

namespace Desinence

/-- A rule whose replacement is free of a character keeps words free of it. -/
theorem Rule.keeps_not_mem {r : Rule} {c : Char} (h : c ∉ r.replacement) :
    r.Keeps fun v => c ∉ v := by
  intro p _ hp
  rw [List.mem_append, not_or] at hp ⊢
  exact ⟨hp.1, h⟩

namespace Stemmer

/-- **A stem has no characters of its own making**: a solid character that is no
small letter is in a stem only if a replacement has it. -/
theorem not_mem_stem {s : Stemmer} {c : Char} (hsolid : IsSolid c) (hsmall : isSmallChar c = false)
    (h : ∀ r ∈ s.table.rules, c ∉ r.replacement) (w : Text) : c ∉ s.stem w := by
  have hnormal : c ∉ w.normalised := (Text.isSmall_normalised w).not_mem hsmall
  have hlast : c ∉ s.through s.table.length w :=
    through_of_keeps (fun r hr => Rule.keeps_not_mem (h r hr)) _ hnormal
  rw [stem_eq_finish_through, finish]
  -- Where accents are removed, no solid character comes in.
  split
  · exact fun hc => hlast (hsolid.mem_of_mem_withoutAccents hc)
  · exact hlast

/-- A space between two texts stays between their stems. -/
theorem stemText_append_space (s : Stemmer) (a b : Text) :
    s.stemText (a ++ ' ' :: b) = s.stemText a ++ ' ' :: s.stemText b := by
  have hne : ∀ t : Text, (t.splitAt ' ').map s.stem ≠ [] := by
    intro t hnil
    exact Text.splitAt_ne_nil ' ' t (List.map_eq_nil_iff.1 hnil)
  rw [stemText, Text.splitAt_append_cons, List.map_append, Text.joinWith_append (hne a) (hne b),
    List.append_assoc]
  rfl

/-- **The pieces of a stemmed text are the stems of the pieces**, where no
replacement has a space. -/
theorem splitAt_stemText {s : Stemmer} (h : ∀ r ∈ s.table.rules, ' ' ∉ r.replacement) (t : Text) :
    (s.stemText t).splitAt ' ' = (t.splitAt ' ').map s.stem := by
  have hsmall : isSmallChar ' ' = false := by decide
  rw [stemText]
  apply Text.splitAt_joinWith
  · intro hnil
    exact Text.splitAt_ne_nil ' ' t (List.map_eq_nil_iff.1 hnil)
  · intro p hp
    obtain ⟨w, -, rfl⟩ := List.mem_map.1 hp
    exact not_mem_stem isSolid_space hsmall h w

/-- **Spaces keep the pieces of a text in their places.** Whatever the table, what
stands in front of a space and what stands behind it are stemmed by themselves.
If no replacement has a space, then with or without accents the pieces of the
stemmed text are the stems of the pieces of the text: there are as many spaces as
before, and each piece is the stem of the one in its place. -/
theorem pieces_of_stemText :
    (∀ (s : Stemmer) (a b : Text),
      s.stemText (a ++ ' ' :: b) = s.stemText a ++ ' ' :: s.stemText b) ∧
    ∀ s : Stemmer, (∀ r ∈ s.table.rules, ' ' ∉ r.replacement) → ∀ t : Text,
      (s.stemText t).splitAt ' ' = (t.splitAt ' ').map s.stem ∧
        (s.stemText t).count ' ' = t.count ' ' ∧
        ∀ i : Nat, ((s.stemText t).splitAt ' ')[i]? = (t.splitAt ' ')[i]?.map s.stem := by
  refine ⟨stemText_append_space, ?_⟩
  intro s h t
  have hpieces := splitAt_stemText h t
  refine ⟨hpieces, ?_, ?_⟩
  · have hlength := congrArg List.length hpieces
    rw [List.length_map, Text.length_splitAt, Text.length_splitAt] at hlength
    omega
  · intro i
    rw [hpieces, List.getElem?_map]

/-- Spaces in front, behind and side by side, a piece of which nothing is left, and
a replacement that loses its mark and would have a space in a form of
compatibility. -/
theorem pieces_of_stemText_silent :
    let vowel : Stage := ⟨"Vowel".toList, 0, false, [], [⟨['a'], 2, ['\u1EA1', '\u00A8'], []⟩]⟩
    let s : Stemmer := ⟨[vowel], true⟩
    let t : Text := " Casa  - \u0130a ".toList
    (∀ r ∈ s.table.rules, ' ' ∉ r.replacement) ∧
      s.stemText t = " casa\u00A8   ia ".toList ∧
      (s.stemText t).splitAt ' ' = [[], "casa\u00A8".toList, [], [], "ia".toList, []] ∧
      (s.stemText t).count ' ' = t.count ' ' := by
  intro vowel s t
  have hrules : ∀ r ∈ s.table.rules, ' ' ∉ r.replacement := by decide
  have hstem : s.stemText t = " casa\u00A8   ia ".toList := by decide +kernel
  have hstems : (t.splitAt ' ').map s.stem = [[], "casa\u00A8".toList, [], [], "ia".toList, []] := by
    decide +kernel
  obtain ⟨-, haligned⟩ := pieces_of_stemText
  obtain ⟨hpieces, hcount, -⟩ := haligned s hrules t
  exact ⟨hrules, hstem, hpieces.trans hstems, hcount⟩

end Stemmer

end Desinence
