/-
Small words without their accents.

A small letter of Latin-1 is a letter of ASCII with one mark, or it is one of
the five that have none to lose: sharp s, ae, eth, o with a stroke and thorn.
Taken apart and freed of marks each small letter is therefore one letter again,
and no two such letters combine. So on small words the removal of accents goes
letter by letter, keeps the length, and a second time changes nothing.
-/
import Desinence.Proofs.Letter.NormalForm
import Desinence.Proofs.Word.Lower

set_option autoImplicit false

namespace Desinence

/-! ## Letters -/

/-- **Letters and digits without accents**: `a` to `z`, the digits, and the five
small letters of Latin-1 that have no decomposition. -/
def isPlainChar (c : Char) : Bool :=
  let n := c.toNat
  (0x61 ≤ n && n ≤ 0x7A) || (0x30 ≤ n && n ≤ 0x39) || n == 0xDF || n == 0xE6 || n == 0xF0 ||
    n == 0xF8 || n == 0xFE

/-- The letter under the marks of a character. -/
def bareLetter (c : Char) : Char :=
  (decomposeChar c).headD c

theorem isSmallChar_of_isPlainChar {c : Char} (h : isPlainChar c = true) : isSmallChar c = true := by
  simp only [isPlainChar, Bool.or_eq_true, Bool.and_eq_true, decide_eq_true_eq, beq_iff_eq] at h
  rw [isSmallChar_iff]
  omega

theorem toNat_lt_of_isSmallChar {c : Char} (h : isSmallChar c = true) : c.toNat < 0x100 := by
  rw [isSmallChar_iff] at h
  omega

/-- What holds of the small letters and digits by their numbers in Latin-1 holds
of each of them. -/
theorem forall_isSmallChar {P : Char → Prop}
    (h : ∀ n, n < 0x100 → isSmallChar (Char.ofNat n) = true → P (Char.ofNat n)) {c : Char}
    (hc : isSmallChar c = true) : P c :=
  forall_of_toNat_lt (P := fun c => isSmallChar c = true → P c) h (toNat_lt_of_isSmallChar hc) hc

/-- **A small letter is one plain letter under its marks**, and a plain letter is
under none. -/
theorem decomposeChar_of_isSmallChar {c : Char} (h : isSmallChar c = true) :
    (decomposeChar c).filter isStarter = [bareLetter c] ∧ isPlainChar (bareLetter c) = true ∧
      (isPlainChar c = true → decomposeChar c = [c]) := by
  refine forall_isSmallChar (P := fun c => (decomposeChar c).filter isStarter = [bareLetter c] ∧
    isPlainChar (bareLetter c) = true ∧ (isPlainChar c = true → decomposeChar c = [c])) ?_ h
  decide +kernel

namespace Text

/-! ## Texts -/

/-- **Texts of letters and digits without accents.** -/
def IsPlain (t : Text) : Prop :=
  ∀ c ∈ t, isPlainChar c = true

instance (t : Text) : Decidable t.IsPlain :=
  List.decidableBAll (fun c => isPlainChar c = true) t

theorem IsPlain.isSmall {t : Text} (h : t.IsPlain) : t.IsSmall := by
  intro c hc
  exact isSmallChar_of_isPlainChar (h c hc)

/-- Plain letters do not combine. -/
theorem composed_of_isPlain {t : Text} (h : t.IsPlain) : composed t = t := by
  apply composed_of_lt
  · intro c hc
    have hlt := toNat_lt_of_isSmallChar (h.isSmall c hc)
    omega
  · intro c hc
    exact (decomposeChar_of_isSmallChar (h.isSmall c hc)).2.2 (h c hc)

theorem isPlain_map_bareLetter {t : Text} (h : t.IsSmall) : IsPlain (t.map bareLetter) := by
  intro d hd
  obtain ⟨c, hc, rfl⟩ := List.mem_map.1 hd
  exact (decomposeChar_of_isSmallChar (h c hc)).2.1

/-- **Accents go letter by letter** from a small text. -/
theorem withoutAccents_of_isSmall {t : Text} (h : t.IsSmall) :
    t.withoutAccents = t.map bareLetter := by
  have hbare : (decomposed t).filter isStarter = t.map bareLetter := by
    rw [filter_isStarter_decomposed, List.map_eq_flatMap]
    exact List.flatMap_congr fun c hc => (decomposeChar_of_isSmallChar (h c hc)).1
  rw [withoutAccents, hbare, composed_of_isPlain (isPlain_map_bareLetter h)]

/-- Removing the accents of a small text leaves a plain one. -/
theorem isPlain_withoutAccents {t : Text} (h : t.IsSmall) : t.withoutAccents.IsPlain := by
  rw [withoutAccents_of_isSmall h]
  exact isPlain_map_bareLetter h

/-- **The length of a small text is that of the text without its accents.** -/
theorem length_withoutAccents {t : Text} (h : t.IsSmall) :
    t.withoutAccents.length = t.length := by
  rw [withoutAccents_of_isSmall h, List.length_map]

/-- A plain text has no accents to lose. -/
theorem withoutAccents_of_isPlain {t : Text} (h : t.IsPlain) : t.withoutAccents = t := by
  have hstarters : ∀ c ∈ t, (decomposeChar c).filter isStarter = [c] := by
    intro c hc
    -- The letter is its own decomposition, and as a letter it is a starter.
    have hwhole := (decomposeChar_of_isSmallChar (h.isSmall c hc)).2.2 (h c hc)
    have hlt := toNat_lt_of_isSmallChar (h.isSmall c hc)
    have hstarter : isStarter c = true := isStarter_of_lt (by omega)
    rw [hwhole, List.filter_cons_of_pos hstarter, List.filter_nil]
  rw [withoutAccents, filter_isStarter_decomposed, List.flatMap_congr hstarters,
    ← List.map_eq_flatMap, List.map_id', composed_of_isPlain h]

end Text

end Desinence
