/-
Blanks in front of a text, and at its two ends.

A reader of records skips blanks before each part, so what matters about a text
is how it splits into a run of blanks and a rest that begins with none. There is
such a split (`exists_eq_append_skipBlanks`), and any such split is the one that
skipping finds (`skipBlanks_append`). `strip` takes such a run off either end; a
text is its own strip exactly when neither end is a blank, stripping twice is
stripping once, and nothing is left exactly if there was nothing but blanks.
-/
import Mathlib.Data.List.TakeWhile
import Desinence.Text.Blank

set_option autoImplicit false

namespace Desinence

/-- A run of blanks, perhaps an empty one. -/
def Blanks (w : Text) : Prop :=
  ∀ c ∈ w, isBlank c = true

instance (w : Text) : Decidable (Blanks w) :=
  List.decidableBAll _ w

@[simp] theorem blanks_nil : Blanks [] := by
  intro c hc
  exact absurd hc (List.not_mem_nil)

namespace Text

/-- A text that does not begin with a blank; the empty text is one. -/
def Flush (t : Text) : Prop :=
  ∀ c ∈ t.head?, isBlank c = false

@[simp] theorem flush_cons {c : Char} {t : Text} : Flush (c :: t) ↔ isBlank c = false := by
  simp [Flush]

/-! ## Skipping -/

/-- A text without a blank in front is left alone. -/
theorem Flush.skipBlanks_eq {t : Text} (h : t.Flush) : t.skipBlanks = t := by
  cases t with
  | nil => rfl
  | cons c r =>
    rw [flush_cons] at h
    simp [skipBlanks, h]

theorem flush_skipBlanks (t : Text) : t.skipBlanks.Flush := by
  intro c hc
  have h := List.head?_dropWhile_not isBlank t
  rw [Option.mem_def] at hc
  rw [skipBlanks] at hc
  rw [hc] at h
  simpa using h

/-- What is skipped is a run of blanks. -/
theorem exists_eq_append_skipBlanks (t : Text) : ∃ w, Blanks w ∧ t = w ++ t.skipBlanks := by
  refine ⟨t.takeWhile isBlank, ?_, (List.takeWhile_append_dropWhile).symm⟩
  intro c hc
  exact List.all_eq_true.1 List.all_takeWhile c hc

/-- **Blanks in front of a text that begins with none** are what is skipped. -/
theorem skipBlanks_append {w r : Text} (hw : Blanks w) (hr : r.Flush) :
    (w ++ r).skipBlanks = r := by
  rw [skipBlanks, List.dropWhile_append_of_pos hw]
  exact hr.skipBlanks_eq

/-! ## Stripping -/

theorem skipBlanks_isSuffix (t : Text) : t.skipBlanks <:+ t :=
  List.dropWhile_suffix isBlank

theorem trimEnd_isPrefix (t : Text) : t.trimEnd <+: t := by
  have h := skipBlanks_isSuffix t.reverse
  rw [← List.reverse_prefix, List.reverse_reverse] at h
  exact h

/-- Stripping takes a stretch out of the text. -/
theorem strip_isInfix (t : Text) : t.strip <:+: t :=
  (trimEnd_isPrefix _).isInfix.trans (skipBlanks_isSuffix t).isInfix

theorem mem_of_mem_strip {t : Text} {c : Char} (h : c ∈ t.strip) : c ∈ t :=
  (strip_isInfix t).subset h

/-- A prefix of a text with no blank in front has none either. -/
theorem Flush.of_isPrefix {s t : Text} (ht : t.Flush) (h : s <+: t) : s.Flush := by
  intro c hc
  obtain ⟨r, rfl⟩ := h
  apply ht c
  rw [Option.mem_def] at hc ⊢
  rw [List.head?_append, hc, Option.some_or]

theorem flush_strip (t : Text) : t.strip.Flush :=
  (flush_skipBlanks t).of_isPrefix (trimEnd_isPrefix _)

theorem flush_reverse_strip (t : Text) : Flush t.strip.reverse := by
  rw [strip, trimEnd, List.reverse_reverse]
  exact flush_skipBlanks _

/-- A text with no blank at either end is its own strip. -/
theorem strip_eq_self {t : Text} (h : t.Flush) (hr : Flush t.reverse) : t.strip = t := by
  rw [strip, h.skipBlanks_eq, trimEnd, hr.skipBlanks_eq, List.reverse_reverse]

/-- The same in terms of the first and the last character. -/
theorem strip_eq_self_of_ends {t : Text} {a b : Char} (ha : t.head? = some a)
    (hb : t.getLast? = some b) (hna : isBlank a = false) (hnb : isBlank b = false) :
    t.strip = t := by
  apply strip_eq_self
  · intro c hc
    rw [ha, Option.mem_some_iff] at hc
    exact hc ▸ hna
  · intro c hc
    rw [List.head?_reverse, hb, Option.mem_some_iff] at hc
    exact hc ▸ hnb

/-- **Stripping twice is stripping once.** -/
theorem strip_strip (t : Text) : t.strip.strip = t.strip :=
  strip_eq_self (flush_strip t) (flush_reverse_strip t)

theorem skipBlanks_eq_nil_iff {t : Text} : t.skipBlanks = [] ↔ Blanks t :=
  List.dropWhile_eq_nil_iff

/-- Nothing is left of a text if there is nothing but blanks in it. -/
theorem strip_eq_nil_iff {t : Text} : t.strip = [] ↔ Blanks t := by
  have htrim : ∀ u : Text, u.trimEnd = [] ↔ Blanks u := by
    intro u
    rw [trimEnd, List.reverse_eq_nil_iff, skipBlanks_eq_nil_iff]
    simp only [Blanks, List.mem_reverse]
  rw [strip, htrim]
  constructor
  · -- What is left has no blank in front, so it is empty if it is blank.
    intro h
    rw [← skipBlanks_eq_nil_iff]
    exact (flush_skipBlanks t).skipBlanks_eq.symm.trans (skipBlanks_eq_nil_iff.2 h)
  · intro h
    rw [skipBlanks_eq_nil_iff.2 h]
    exact blanks_nil

end Text

end Desinence
