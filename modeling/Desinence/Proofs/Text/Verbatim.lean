/-
Which texts stand as they are in what quotes them.

Quoting puts a backslash in front of each backslash and of each mark, and shows what is not
printable by other characters. So a text with something unprintable is nowhere to be found
in its quoted form, and any other is found there exactly if no backslash comes to stand
inside it: its own backslashes must be at its two ends, where it does not matter which of
them count, and a mark may only be the first character between those (`StaysWhole`).

The text could also be found across the quote mark, in part in what stands in front of it.
It is not, since a character to tell this by occurs in nothing but the text: if the text
has the mark in it, it also has the other quote mark, for which the mark was chosen; and
else it has a backslash, or nothing in it is escaped at all (`IsMarker`).
-/
import Mathlib.Data.List.Infix
import Desinence.Proofs.Text.Quoted

set_option autoImplicit false

namespace Desinence

namespace Text

variable {mark c d : Char} {t : Text}

/-! ## Escaping printable texts -/

/-- A printable character is shown as it is, or with a backslash in front. -/
theorem escapeChar_of_isPrintable (h : isPrintable c = true) :
    escapeChar mark c = if c = '\\' ∨ c = mark then ['\\', c] else [c] := by
  have hcontrol :
      isPrintable '\t' = false ∧ isPrintable '\n' = false ∧ isPrintable '\r' = false := by
    decide +kernel
  have hne : ∀ d, isPrintable d = false → c ≠ d := by
    rintro d hd rfl
    rw [hd] at h
    exact Bool.false_ne_true h
  rw [escapeChar, if_neg (hne _ hcontrol.1), if_neg (hne _ hcontrol.2.1),
    if_neg (hne _ hcontrol.2.2), if_pos h]

theorem escapeChar_backslash (mark : Char) : escapeChar mark '\\' = ['\\', '\\'] := by
  rw [escapeChar, if_pos (.inl rfl)]

/-- Nothing is put into a printable text but backslashes. -/
theorem filter_flatMap_escapeChar (h : ∀ c ∈ t, isPrintable c = true) :
    (t.flatMap (escapeChar mark)).filter (· != '\\') = t.filter (· != '\\') := by
  induction t with
  | nil => rfl
  | cons c t ih =>
    have hrest := ih fun d hd => h d (List.mem_cons_of_mem c hd)
    have hchar : (escapeChar mark c).filter (· != '\\') = [c].filter (· != '\\') := by
      rw [escapeChar_of_isPrintable (h c List.mem_cons_self)]
      split
      · exact List.filter_cons_of_neg (by decide)
      · rfl
    rw [List.flatMap_cons, List.filter_append, hrest, hchar, ← List.filter_append,
      List.singleton_append]

/-- No character is lost. -/
theorem length_le_length_flatMap_escapeChar (mark : Char) (t : Text) :
    t.length ≤ (t.flatMap (escapeChar mark)).length := by
  have hchar : ∀ c, 1 ≤ (escapeChar mark c).length := by
    intro c
    rw [escapeChar]
    split_ifs <;> simp
  induction t with
  | nil => exact Nat.le_refl 0
  | cons c t ih =>
    have hc := hchar c
    rw [List.flatMap_cons, List.length_append, List.length_cons]
    omega

/-- Where there is nothing to escape, nothing changes. -/
theorem flatMap_escapeChar_eq_self (h : ∀ c ∈ t, isPrintable c = true)
    (hfree : ∀ c ∈ t, c ≠ '\\' ∧ c ≠ mark) : t.flatMap (escapeChar mark) = t := by
  induction t with
  | nil => rfl
  | cons c t ih =>
    have hrest := ih (fun d hd => h d (List.mem_cons_of_mem c hd))
      fun d hd => hfree d (List.mem_cons_of_mem c hd)
    have hc : ¬(c = '\\' ∨ c = mark) := by
      rw [not_or]
      exact hfree c List.mem_cons_self
    rw [List.flatMap_cons, escapeChar_of_isPrintable (h c List.mem_cons_self), if_neg hc, hrest,
      List.singleton_append]

/-- Backslashes are doubled. -/
theorem flatMap_escapeChar_replicate (mark : Char) (n : Nat) :
    (List.replicate n '\\').flatMap (escapeChar mark) =
      List.replicate n '\\' ++ List.replicate n '\\' := by
  have htwo : ['\\', '\\'] = List.replicate 2 '\\' := rfl
  induction n with
  | zero => rfl
  | succ n ih =>
    rw [List.replicate_succ, List.flatMap_cons, ih, escapeChar_backslash, htwo,
      ← List.replicate_succ]
    simp only [List.replicate_append_replicate]
    congr 1
    omega

/-! ## Texts that occur in their escaped form -/

/-- With a backslash in front of what is escaped, only a text of backslashes comes back. -/
theorem eq_replicate_of_surplus {k j : Nat}
    (heq : List.replicate (k + 1) '\\' ++ t.flatMap (escapeChar mark) =
      t ++ List.replicate j '\\') : t = List.replicate t.length '\\' := by
  induction t generalizing k with
  | nil => rfl
  | cons d r ih =>
    rw [List.replicate_succ, List.cons_append, List.cons_append] at heq
    obtain ⟨rfl, heq⟩ := List.cons.inj heq
    have htwo : escapeChar mark '\\' = List.replicate 2 '\\' := escapeChar_backslash mark
    rw [List.flatMap_cons, htwo, ← List.append_assoc, List.replicate_append_replicate] at heq
    rw [List.length_cons, List.replicate_succ, ← ih heq]

/-- A text whose escaped form only has backslashes behind it ends with backslashes, and
nothing in front of these is escaped. -/
theorem exists_core_of_escaped_end {j : Nat} (h : ∀ c ∈ t, isPrintable c = true)
    (heq : t.flatMap (escapeChar mark) = t ++ List.replicate j '\\') :
    ∃ b core, t = core ++ List.replicate b '\\' ∧ ∀ c ∈ core, c ≠ '\\' ∧ c ≠ mark := by
  induction t with
  | nil => exact ⟨0, [], rfl, fun c hc => absurd hc List.not_mem_nil⟩
  | cons d r ih =>
    have hr : ∀ c ∈ r, isPrintable c = true := fun c hc => h c (List.mem_cons_of_mem d hc)
    rw [List.flatMap_cons, escapeChar_of_isPrintable (h d List.mem_cons_self)] at heq
    split at heq
    next =>
      -- The backslash of the escape must be the character itself.
      obtain ⟨rfl, hrest⟩ := List.cons.inj heq
      have hall := eq_replicate_of_surplus (k := 0) hrest
      refine ⟨r.length + 1, [], ?_, fun c hc => absurd hc List.not_mem_nil⟩
      rw [List.replicate_succ, ← hall, List.nil_append]
    next hd =>
      rw [not_or] at hd
      obtain ⟨b, core, hcore, hfree⟩ := ih hr (List.cons.inj heq).2
      refine ⟨b, d :: core, congrArg (d :: ·) hcore, fun c hc => ?_⟩
      obtain rfl | hc := List.mem_cons.1 hc
      · exact hd
      · exact hfree c hc

/-- With backslashes on both sides, the text may begin with some as well, and the character
behind them may be escaped. The induction takes away one backslash after the other. -/
theorem exists_core_of_escaped {i j : Nat} (h : ∀ c ∈ t, isPrintable c = true)
    (heq : t.flatMap (escapeChar mark) =
      List.replicate i '\\' ++ t ++ List.replicate j '\\') :
    ∃ a b core, t = List.replicate a '\\' ++ core ++ List.replicate b '\\' ∧
      ∀ c ∈ core.tail, c ≠ '\\' ∧ c ≠ mark := by
  induction t generalizing i with
  | nil => exact ⟨0, 0, [], rfl, fun c hc => absurd hc List.not_mem_nil⟩
  | cons d r ih =>
    have hr : ∀ c ∈ r, isPrintable c = true := fun c hc => h c (List.mem_cons_of_mem d hc)
    by_cases hd : d = '\\'
    · subst hd
      rw [List.flatMap_cons, escapeChar_backslash] at heq
      cases i with
      | zero =>
        have hall := eq_replicate_of_surplus (k := 0) (List.cons.inj heq).2
        refine ⟨r.length + 1, 0, [], ?_, fun c hc => absurd hc List.not_mem_nil⟩
        rw [List.replicate_succ, ← hall, List.append_nil, List.replicate_zero, List.append_nil]
      | succ i =>
        have htail : '\\' :: r.flatMap (escapeChar mark) =
            List.replicate i '\\' ++ '\\' :: r ++ List.replicate j '\\' := (List.cons.inj heq).2
        have hmove : List.replicate i '\\' ++ '\\' :: r = '\\' :: (List.replicate i '\\' ++ r) := by
          rw [List.append_cons, ← List.replicate_succ', List.replicate_succ, List.cons_append]
        rw [hmove] at htail
        obtain ⟨a, b, core, hcore, hfree⟩ := ih hr (List.cons.inj htail).2
        exact ⟨a + 1, b, core, congrArg ('\\' :: ·) hcore, hfree⟩
    · have hrest : r.flatMap (escapeChar mark) = r ++ List.replicate j '\\' := by
        rw [List.flatMap_cons, escapeChar_of_isPrintable (h d List.mem_cons_self)] at heq
        -- In front of the character there is its own backslash, if any, and no other.
        obtain _ | _ | i := i
        · split at heq
          · exact absurd (List.cons.inj heq).1.symm hd
          · exact (List.cons.inj heq).2
        · split at heq
          · exact (List.cons.inj (List.cons.inj heq).2).2
          · exact absurd (List.cons.inj heq).1 hd
        · split at heq
          · exact absurd (List.cons.inj (List.cons.inj heq).2).1 hd
          · exact absurd (List.cons.inj heq).1 hd
      obtain ⟨b, core, hcore, hfree⟩ := exists_core_of_escaped_end hr hrest
      exact ⟨0, b, d :: core, congrArg (d :: ·) hcore, hfree⟩

/-- **A printable text occurs in its escaped form** exactly if all that is escaped in it is a
run of backslashes at each end, and the first character between them. -/
theorem isInfix_flatMap_escapeChar_iff (h : ∀ c ∈ t, isPrintable c = true) :
    t <:+: t.flatMap (escapeChar mark) ↔
      ∃ a b core, t = List.replicate a '\\' ++ core ++ List.replicate b '\\' ∧
        ∀ c ∈ core.tail, c ≠ '\\' ∧ c ≠ mark := by
  constructor
  · rintro ⟨front, back, heq⟩
    -- All other characters are in the text itself.
    have hfilter := @filter_flatMap_escapeChar mark t h
    rw [← heq, List.filter_append, List.filter_append] at hfilter
    have hlength := congrArg List.length hfilter
    rw [List.length_append, List.length_append] at hlength
    have hrun : ∀ s : Text, (s.filter (· != '\\')).length = 0 →
        s = List.replicate s.length '\\' := by
      intro s hs
      rw [List.eq_replicate_iff]
      refine ⟨rfl, fun c hc => ?_⟩
      have hnot := List.filter_eq_nil_iff.1 (List.length_eq_zero_iff.1 hs) c hc
      simpa using hnot
    rw [hrun front (by omega), hrun back (by omega)] at heq
    exact exists_core_of_escaped h heq.symm
  · rintro ⟨a, b, core, rfl, hfree⟩
    have hcore : ∃ x, core.flatMap (escapeChar mark) = List.replicate x '\\' ++ core := by
      cases core with
      | nil => exact ⟨0, rfl⟩
      | cons c r =>
        have hr : r.flatMap (escapeChar mark) = r :=
          flatMap_escapeChar_eq_self (fun d hd => h d (by simp [hd])) hfree
        rw [List.flatMap_cons, hr, escapeChar_of_isPrintable (h c (by simp))]
        split
        · exact ⟨1, rfl⟩
        · exact ⟨0, rfl⟩
    obtain ⟨x, hx⟩ := hcore
    have hrun : List.replicate (a + x) '\\' ++ List.replicate a '\\' =
        List.replicate a '\\' ++ List.replicate a '\\' ++ List.replicate x '\\' := by
      simp only [List.replicate_append_replicate]
      congr 1
      omega
    refine ⟨List.replicate (a + x) '\\', List.replicate b '\\', ?_⟩
    calc List.replicate (a + x) '\\' ++
          (List.replicate a '\\' ++ core ++ List.replicate b '\\') ++ List.replicate b '\\'
        = List.replicate (a + x) '\\' ++ List.replicate a '\\' ++
            (core ++ List.replicate b '\\' ++ List.replicate b '\\') := by
          simp only [List.append_assoc]
      _ = (List.replicate a '\\' ++ core ++ List.replicate b '\\').flatMap (escapeChar mark) := by
          rw [hrun, List.flatMap_append, List.flatMap_append, flatMap_escapeChar_replicate,
            flatMap_escapeChar_replicate, hx]
          simp only [List.append_assoc]

/-! ## Texts behind other text -/

/-- What is in front of the first of its kind is in front of any other. -/
theorem length_le_of_not_mem_left {x y a z : Text} (hd : d ∉ x)
    (h : x ++ d :: y = a ++ d :: z) : x.length ≤ a.length := by
  obtain ⟨u, rfl, -⟩ | ⟨u, rfl, hu⟩ := List.append_eq_append_iff.1 h
  · rw [List.length_append]
    omega
  · cases u with
    | nil => rw [List.append_nil]
    | cons e u =>
      rw [List.cons_append, List.cons.injEq] at hu
      exact absurd (List.mem_append_right a (hu.1 ▸ List.mem_cons_self)) hd

/-- And what is behind the last is behind any other. -/
theorem length_le_of_not_mem_right {x y a z : Text} (hd : d ∉ y)
    (h : x ++ d :: y = a ++ d :: z) : y.length ≤ z.length := by
  have hreverse := congrArg List.reverse h
  simp only [List.reverse_append, List.reverse_cons, List.append_assoc,
    List.singleton_append] at hreverse
  have hle := length_le_of_not_mem_left (by simpa using hd) hreverse
  simpa using hle

theorem exists_last_of_mem {s : Text} (h : d ∈ s) : ∃ x y, s = x ++ d :: y ∧ d ∉ y := by
  obtain ⟨x, y, hxy, hx⟩ := List.eq_append_cons_of_mem (List.mem_reverse.2 h)
  refine ⟨y.reverse, x.reverse, ?_, by simpa using hx⟩
  rw [← List.reverse_reverse s, hxy]
  simp

/-- **A character to tell a text by**: it is in the text, but not in front of it, and where
the text is shown nothing but the character itself is shown by it. -/
structure IsMarker (mark d : Char) (t front : Text) : Prop where
  mem : d ∈ t
  not_mem_front : d ∉ front
  ne_mark : d ≠ mark
  self : ∃ k, escapeChar mark d = List.replicate (k + 1) d
  other : ∀ c ∈ t, c ≠ d → d ∉ escapeChar mark c

namespace IsMarker

variable {front a b : Text}

theorem not_mem_flatMap (hd : IsMarker mark d t front) {s : Text} (hs : s ⊆ t) (hds : d ∉ s) :
    d ∉ s.flatMap (escapeChar mark) := by
  intro hmem
  obtain ⟨c, hc, hcd⟩ := List.mem_flatMap.1 hmem
  exact hd.other c (hs hc) (fun heq => hds (heq ▸ hc)) hcd

/-- The first marker of a text found is not further in front than the first one shown. -/
theorem length_front_lt (hd : IsMarker mark d t front)
    (heq : a ++ t ++ b = front ++ (mark :: t.flatMap (escapeChar mark) ++ [mark])) :
    front.length < a.length := by
  obtain ⟨s, u, rfl, hds⟩ := List.eq_append_cons_of_mem hd.mem
  obtain ⟨k, hk⟩ := hd.self
  have hsplit : (front ++ mark :: s.flatMap (escapeChar mark)) ++
      d :: (List.replicate k d ++ u.flatMap (escapeChar mark) ++ [mark]) =
        (a ++ s) ++ d :: (u ++ b) := by
    rw [List.flatMap_append, List.flatMap_cons, hk, List.replicate_succ] at heq
    simpa using heq.symm
  have hnone : d ∉ front ++ mark :: s.flatMap (escapeChar mark) := by
    rw [List.mem_append, List.mem_cons, not_or, not_or]
    exact ⟨hd.not_mem_front, hd.ne_mark, hd.not_mem_flatMap (List.subset_append_left _ _) hds⟩
  have hle := length_le_of_not_mem_left hnone hsplit
  have hgrow := length_le_length_flatMap_escapeChar mark s
  simp only [List.length_append, List.length_cons] at hle
  omega

/-- Nor is its last one further behind than the last one shown. -/
theorem length_back_pos (hd : IsMarker mark d t front)
    (heq : a ++ t ++ b = front ++ (mark :: t.flatMap (escapeChar mark) ++ [mark])) :
    0 < b.length := by
  obtain ⟨s, u, rfl, hdu⟩ := exists_last_of_mem hd.mem
  obtain ⟨k, hk⟩ := hd.self
  have hsplit : (front ++ mark :: s.flatMap (escapeChar mark) ++ List.replicate k d) ++
      d :: (u.flatMap (escapeChar mark) ++ [mark]) = (a ++ s) ++ d :: (u ++ b) := by
    rw [List.flatMap_append, List.flatMap_cons, hk, List.replicate_succ'] at heq
    simpa using heq.symm
  have hsub : u ⊆ s ++ d :: u :=
    List.Subset.trans (List.subset_cons_self d u) (List.subset_append_right s (d :: u))
  have hnone : d ∉ u.flatMap (escapeChar mark) ++ [mark] := by
    rw [List.mem_append, List.mem_singleton, not_or]
    exact ⟨hd.not_mem_flatMap hsub hdu, hd.ne_mark⟩
  have hle := length_le_of_not_mem_right hnone hsplit
  have hgrow := length_le_length_flatMap_escapeChar mark u
  simp only [List.length_append, List.length_singleton] at hle
  omega

/-- **A text with a marker is found between the marks** and not across them. -/
theorem isInfix (hd : IsMarker mark d t front)
    (h : t <:+: front ++ (mark :: t.flatMap (escapeChar mark) ++ [mark])) :
    t <:+: t.flatMap (escapeChar mark) := by
  obtain ⟨a, b, heq⟩ := h
  have hopen : front ++ [mark] <+: a := by
    have hshown : front ++ [mark] <+: a ++ t ++ b := by
      rw [heq]
      exact ⟨t.flatMap (escapeChar mark) ++ [mark], by simp⟩
    have ha : a <+: a ++ t ++ b := ⟨t ++ b, (List.append_assoc a t b).symm⟩
    refine List.prefix_of_prefix_length_le hshown ha ?_
    rw [List.length_append, List.length_singleton]
    exact hd.length_front_lt heq
  have hclose : [mark] <:+ b := by
    have hshown : [mark] <:+ a ++ t ++ b := by
      rw [heq]
      exact ⟨front ++ mark :: t.flatMap (escapeChar mark), by simp⟩
    exact List.suffix_of_suffix_length_le hshown (List.suffix_append (a ++ t) b)
      (hd.length_back_pos heq)
  obtain ⟨a, rfl⟩ := hopen
  obtain ⟨b, rfl⟩ := hclose
  have hbody : front ++ [mark] ++ (a ++ t ++ b) ++ [mark] =
      front ++ [mark] ++ t.flatMap (escapeChar mark) ++ [mark] := by
    simpa using heq
  exact ⟨a, b, List.append_cancel_left (List.append_cancel_right hbody)⟩

end IsMarker

/-! ## Texts that stay whole -/

/-- **A text that quoting leaves whole**: it is printable, and what is escaped in it are
backslashes at its two ends and perhaps the first character between them. -/
structure StaysWhole (t : Text) : Prop where
  printable : ∀ c ∈ t, isPrintable c = true
  shape : ∃ a b core, t = List.replicate a '\\' ++ core ++ List.replicate b '\\' ∧
    ∀ c ∈ core.tail, c ≠ '\\' ∧ c ≠ t.quoteMark

/-- The mark is in a text only if the other one is, too. -/
theorem quoteMark_mem (h : t.quoteMark ∈ t) : t.quoteMark = '\'' ∧ '"' ∈ t := by
  rw [quoteMark] at h ⊢
  split at h
  next hmarks =>
    rw [Bool.and_eq_true, Bool.not_eq_true', List.contains_eq_mem, List.contains_eq_mem,
      decide_eq_false_iff_not] at hmarks
    exact absurd h hmarks.2
  next hmarks =>
    rw [if_neg hmarks]
    refine ⟨rfl, ?_⟩
    by_contra hnone
    apply hmarks
    simp [h, hnone]

/-- Printable texts without a backslash and with one kind of quote marks at most stay
whole. -/
theorem staysWhole_of_not_mem (h : ∀ c ∈ t, isPrintable c = true) (hslash : '\\' ∉ t)
    (hmarks : ¬('\'' ∈ t ∧ '"' ∈ t)) : t.StaysWhole := by
  refine ⟨h, 0, 0, t, by simp, fun c hc => ⟨?_, ?_⟩⟩
  · rintro rfl
    exact hslash (List.mem_of_mem_tail hc)
  · rintro rfl
    have hmem := List.mem_of_mem_tail hc
    obtain ⟨hsingle, hdouble⟩ := quoteMark_mem hmem
    exact hmarks ⟨hsingle ▸ hmem, hdouble⟩

/-- A text in which there is nothing to escape, whatever the mark. -/
def Smooth (t : Text) : Prop :=
  ∀ c ∈ t, isPrintable c = true ∧ c ≠ '\\' ∧ c ≠ '\'' ∧ c ≠ '"'

theorem Smooth.append {s : Text} (hs : s.Smooth) (ht : t.Smooth) : (s ++ t).Smooth := by
  intro c hc
  obtain hc | hc := List.mem_append.1 hc
  · exact hs c hc
  · exact ht c hc

/-- **A text occurs in what quotes it behind a smooth text** exactly if it stays whole. -/
theorem isInfix_append_quoted_iff {front : Text} (hfront : front.Smooth) :
    t <:+: front ++ t.quoted ↔ t.StaysWhole := by
  constructor
  · intro h
    have hprintable : ∀ c ∈ t, isPrintable c = true := by
      intro c hc
      obtain hc | hc := List.mem_append.1 (h.subset hc)
      · exact (hfront c hc).1
      · exact isPrintable_of_mem_quoted hc
    refine ⟨hprintable, (isInfix_flatMap_escapeChar_iff hprintable).1 ?_⟩
    by_cases hmark : t.quoteMark ∈ t
    · -- Then both marks are in the text, and the double one is shown as it is.
      obtain ⟨hsingle, hdouble⟩ := quoteMark_mem hmark
      have hdoubleMarker : IsMarker t.quoteMark '"' t front := by
        refine ⟨hdouble, fun hmem => (hfront _ hmem).2.2.2 rfl, ?_, ⟨0, ?_⟩, ?_⟩
        · rw [hsingle]
          decide
        · rw [hsingle]
          decide +kernel
        · intro c hc hne hmem
          rw [escapeChar_of_isPrintable (hprintable c hc)] at hmem
          split at hmem <;> simp [hne.symm] at hmem
      exact hdoubleMarker.isInfix h
    · by_cases hslash : '\\' ∈ t
      · -- Then only backslashes are escaped.
        have hne : t.quoteMark ≠ '\\' := fun heq => hmark (heq ▸ hslash)
        have hslashMarker : IsMarker t.quoteMark '\\' t front := by
          refine ⟨hslash, fun hmem => (hfront _ hmem).2.1 rfl, hne.symm,
            ⟨1, escapeChar_backslash _⟩, ?_⟩
          intro c hc hcne hmem
          have hfree : ¬(c = '\\' ∨ c = t.quoteMark) := by
            rw [not_or]
            exact ⟨hcne, fun heq => hmark (heq ▸ hc)⟩
          rw [escapeChar_of_isPrintable (hprintable c hc), if_neg hfree,
            List.mem_singleton] at hmem
          exact hcne hmem.symm
        exact hslashMarker.isInfix h
      · have hself : t.flatMap (escapeChar t.quoteMark) = t :=
          flatMap_escapeChar_eq_self hprintable fun c hc =>
            ⟨fun heq => hslash (heq ▸ hc), fun heq => hmark (heq ▸ hc)⟩
        rw [hself]
  · intro h
    have hbody := (isInfix_flatMap_escapeChar_iff h.printable).2 h.shape
    obtain ⟨a, b, heq⟩ := hbody
    refine ⟨front ++ t.quoteMark :: a, b ++ [t.quoteMark], ?_⟩
    rw [quoted, ← heq]
    simp

end Text

end Desinence
