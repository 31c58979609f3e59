/-
The lines of a text, and the text of given lines.

A line is a stretch of its text without a boundary in it. The other way round,
texts without a boundary are the lines of the text that puts a line feed behind
each of them, so every list of such texts is the list of lines of some text.

A line feed is a boundary whatever follows it, so it parts the lines of a text in
two (`lines_append_newline_append`). What stands in front matters only if it is a
carriage return, and for the same reason unifying newlines changes no line.
-/
import Desinence.Text.Lines

set_option autoImplicit false

namespace Desinence

namespace Text

/-- A text without a line boundary, as each line of a text is. -/
def OneLine (t : Text) : Prop :=
  ∀ c ∈ t, isLineEnd c = false

instance (t : Text) : Decidable t.OneLine :=
  List.decidableBAll _ t

/-- A stretch of such a text is one. -/
theorem OneLine.of_isInfix {s t : Text} (ht : t.OneLine) (h : s <:+: t) : s.OneLine :=
  fun c hc => ht c (h.subset hc)

@[simp] theorem oneLine_nil : OneLine [] := by
  intro c hc
  exact absurd hc List.not_mem_nil

@[simp] theorem oneLine_cons {c : Char} {t : Text} :
    OneLine (c :: t) ↔ isLineEnd c = false ∧ OneLine t := by
  simp [OneLine]

@[simp] theorem oneLine_append {s t : Text} : OneLine (s ++ t) ↔ OneLine s ∧ OneLine t := by
  simp [OneLine, or_imp, forall_and]

theorem OneLine.append {s t : Text} (hs : s.OneLine) (ht : t.OneLine) : (s ++ t).OneLine :=
  oneLine_append.2 ⟨hs, ht⟩

/-- So is a character over and over that is no boundary. -/
theorem oneLine_replicate {c : Char} (h : isLineEnd c = false) (n : Nat) :
    OneLine (List.replicate n c) := by
  intro d hd
  rw [List.eq_of_mem_replicate hd]
  exact h

/-- **The text of given lines**: a line feed behind each. -/
def ofLines (ls : List Text) : Text :=
  ls.flatMap (· ++ ['\n'])

/-! ## Lines of a text -/

/-- A boundary ends an empty line, the pair of carriage return and line feed
apart. -/
theorem lines_cons_of_isLineEnd {c : Char} {r : Text} (h : ∀ s, c = '\r' → r ≠ '\n' :: s)
    (hc : isLineEnd c = true) : lines (c :: r) = [] :: lines r := by
  rw [lines, if_pos hc]
  exact h

/-- Any other character is the first of its line. -/
theorem lines_cons_of_not_isLineEnd {c : Char} {r : Text} (hc : isLineEnd c = false) :
    lines (c :: r) = (c :: (lines r).headD []) :: (lines r).tail := by
  have hne : ∀ s, c = '\r' → r ≠ '\n' :: s := by
    rintro s rfl
    exact absurd hc (by decide)
  rw [lines, hc]
  · cases lines r <;> rfl
  · exact hne

theorem oneLine_of_mem_lines {t l : Text} (h : l ∈ t.lines) : l.OneLine := by
  -- One case for each equation of `lines`; an ordinary character joins the first
  -- line behind it, if there is one.
  induction t using lines.induct generalizing l with
  | case1 => simp [lines] at h
  | case2 r ih =>
    rw [lines, List.mem_cons] at h
    rcases h with rfl | h
    · exact oneLine_nil
    · exact ih h
  | case3 c r hne hc ih =>
    rw [lines_cons_of_isLineEnd hne hc, List.mem_cons] at h
    rcases h with rfl | h
    · exact oneLine_nil
    · exact ih h
  | case4 c r hne hc hr ih =>
    rw [Bool.not_eq_true] at hc
    rw [lines_cons_of_not_isLineEnd hc, hr] at h
    rw [List.mem_singleton.1 h]
    intro d hd
    rw [List.mem_singleton.1 hd]
    exact hc
  | case5 c r hne hc l' ls hr ih =>
    rw [Bool.not_eq_true] at hc
    rw [lines_cons_of_not_isLineEnd hc, hr, List.headD_cons, List.tail_cons] at h
    rcases List.mem_cons.1 h with rfl | h
    · intro d hd
      rcases List.mem_cons.1 hd with rfl | hd
      · exact hc
      · exact ih (hr ▸ List.mem_cons_self) d hd
    · exact ih (hr ▸ List.mem_cons_of_mem _ h)

/-- The first line is in front of the text, every other one further on. -/
theorem lines_stretches (t : Text) :
    (∀ l ∈ t.lines.head?, l <+: t) ∧ ∀ l ∈ t.lines, l <:+: t := by
  induction t using lines.induct with
  | case1 => simp [lines]
  | case2 r ih =>
    rw [lines]
    refine ⟨by simp, fun l hl => ?_⟩
    rcases List.mem_cons.1 hl with rfl | hl
    · exact List.nil_infix
    · exact (ih.2 l hl).trans (List.suffix_append ['\r', '\n'] r).isInfix
  | case3 c r hne hc ih =>
    rw [lines_cons_of_isLineEnd hne hc]
    refine ⟨by simp, fun l hl => ?_⟩
    rcases List.mem_cons.1 hl with rfl | hl
    · exact List.nil_infix
    · exact (ih.2 l hl).trans (List.suffix_cons c r).isInfix
  | case4 c r hne hc hr ih =>
    rw [Bool.not_eq_true] at hc
    rw [lines_cons_of_not_isLineEnd hc, hr]
    have hcr : [c] <+: c :: r := List.prefix_append [c] r
    refine ⟨by simp, fun l hl => ?_⟩
    rw [List.mem_singleton.1 hl]
    exact hcr.isInfix
  | case5 c r hne hc l' ls hr ih =>
    rw [Bool.not_eq_true] at hc
    rw [lines_cons_of_not_isLineEnd hc, hr]
    -- The character joins the first line, which is why that one must be in front.
    have hl' : c :: l' <+: c :: r := by
      rw [List.cons_prefix_cons]
      exact ⟨rfl, ih.1 l' (by rw [hr]; rfl)⟩
    refine ⟨by simpa using hl', fun l hl => ?_⟩
    rcases List.mem_cons.1 hl with rfl | hl
    · exact hl'.isInfix
    · have hlr : l ∈ lines r := hr ▸ List.mem_cons_of_mem _ hl
      exact (ih.2 l hlr).trans (List.suffix_cons c r).isInfix

/-- **Every line is a stretch of the text.** -/
theorem isInfix_of_mem_lines {t l : Text} (h : l ∈ t.lines) : l <:+: t :=
  (lines_stretches t).2 l h

/-! ## The text of lines -/

/-- A line feed ends the line in front of it. -/
theorem lines_append_newline {l : Text} (h : l.OneLine) (r : Text) :
    lines (l ++ '\n' :: r) = l :: lines r := by
  induction l with
  | nil =>
    have hne : ∀ s, '\n' = '\r' → r ≠ '\n' :: s := by
      intro s hs
      exact absurd hs (by decide)
    rw [List.nil_append, lines_cons_of_isLineEnd hne (by decide)]
  | cons c l ih =>
    have hc : isLineEnd c = false := h c List.mem_cons_self
    have hl := ih fun d hd => h d (List.mem_cons_of_mem _ hd)
    rw [List.cons_append, lines_cons_of_not_isLineEnd hc, hl]
    rfl

/-- **The lines of the text of lines** are those lines. -/
theorem lines_ofLines {ls : List Text} (h : ∀ l ∈ ls, l.OneLine) : lines (ofLines ls) = ls := by
  induction ls with
  | nil => rfl
  | cons l ls ih =>
    have hl : l.OneLine := h l List.mem_cons_self
    have hls := ih fun m hm => h m (List.mem_cons_of_mem _ hm)
    rw [ofLines, List.flatMap_cons, List.append_assoc, List.singleton_append,
      lines_append_newline hl]
    rw [ofLines] at hls
    rw [hls]

/-! ## Line feeds between texts -/

/-- A line feed in front is an empty line. -/
theorem lines_feed_cons (r : Text) : lines ('\n' :: r) = [] :: lines r :=
  lines_append_newline oneLine_nil r

/-- So is a carriage return with its line feed. -/
theorem lines_return_feed_cons (r : Text) : lines ('\r' :: '\n' :: r) = [] :: lines r := by
  rw [lines]

/-- A text has a line if it has a character. -/
theorem lines_cons_ne_nil (c : Char) (r : Text) : lines (c :: r) ≠ [] := by
  unfold lines
  split
  · simp_all
  · simp
  · split
    · simp
    · split <;> simp

/-- A boundary stays one when a text with a line feed is put behind it, but a
carriage return at the end takes the line feed to itself. -/
theorem lines_boundary_append {c : Char} {r : Text} (h : ∀ s, c = '\r' → r ≠ '\n' :: s)
    (hc : isLineEnd c = true) :
    (c = '\r' ∧ r = []) ∨ ∀ t, lines (c :: (r ++ '\n' :: t)) = [] :: lines (r ++ '\n' :: t) := by
  by_cases hcr : c = '\r' ∧ r = []
  · exact .inl hcr
  · refine .inr fun t => lines_cons_of_isLineEnd (fun s hs hd => ?_) hc
    cases r with
    | nil => exact hcr ⟨hs, rfl⟩
    | cons d r =>
      rw [List.cons_append, List.cons.injEq] at hd
      exact h r hs (by rw [hd.1])

/-- **A line feed parts the lines**: those of the text up to it, and those of the
text behind it. -/
theorem lines_append_newline_append (s t : Text) :
    lines (s ++ '\n' :: t) = lines (s ++ ['\n']) ++ lines t := by
  -- An ordinary character joins the first line behind it, which is in front of
  -- the line feed.
  have hjoin : ∀ c r, isLineEnd c = false →
      lines (r ++ '\n' :: t) = lines (r ++ ['\n']) ++ lines t →
      lines (c :: (r ++ '\n' :: t)) = lines (c :: (r ++ ['\n'])) ++ lines t := by
    intro c r hc ih
    rw [lines_cons_of_not_isLineEnd hc, lines_cons_of_not_isLineEnd hc, ih]
    cases hl : lines (r ++ ['\n']) with
    | nil =>
      cases r with
      | nil => exact absurd hl (lines_cons_ne_nil _ _)
      | cons d r => exact absurd hl (lines_cons_ne_nil _ _)
    | cons l ls => rfl
  induction s using lines.induct with
  | case1 =>
    rw [List.nil_append, List.nil_append, lines_feed_cons, lines_feed_cons]
    rfl
  | case2 r ih =>
    simp only [List.cons_append, lines_return_feed_cons, ih]
  | case3 c r hne hc ih =>
    rcases lines_boundary_append hne hc with ⟨rfl, rfl⟩ | hstay
    · simp only [List.cons_append, List.nil_append, lines_return_feed_cons]
      rfl
    · simp only [List.cons_append, hstay, ih]
  | case4 c r hne hc hr ih => exact hjoin c r (Bool.not_eq_true _ ▸ hc) ih
  | case5 c r hne hc l' ls hr ih => exact hjoin c r (Bool.not_eq_true _ ▸ hc) ih

/-- A line feed at the end adds an empty line or none. -/
theorem lines_concat_newline (s : Text) :
    lines (s ++ ['\n']) = lines s ∨ lines (s ++ ['\n']) = lines s ++ [[]] := by
  induction s using lines.induct with
  | case1 => exact .inr rfl
  | case2 r ih =>
    simp only [List.cons_append, lines_return_feed_cons]
    exact ih.imp (congrArg _) (congrArg _)
  | case3 c r hne hc ih =>
    rcases lines_boundary_append hne hc with ⟨rfl, rfl⟩ | hstay
    · exact .inl rfl
    · rw [List.cons_append, hstay, lines_cons_of_isLineEnd hne hc]
      exact ih.imp (congrArg _) (congrArg _)
  | case4 c r hne hc hr ih =>
    rw [Bool.not_eq_true] at hc
    rw [List.cons_append, lines_cons_of_not_isLineEnd hc, lines_cons_of_not_isLineEnd hc]
    rw [hr] at ih ⊢
    rcases ih with h | h <;> rw [h] <;> exact .inl rfl
  | case5 c r hne hc l' ls hr ih =>
    rw [Bool.not_eq_true] at hc
    rw [List.cons_append, lines_cons_of_not_isLineEnd hc, lines_cons_of_not_isLineEnd hc]
    rw [hr] at ih ⊢
    rcases ih with h | h <;> rw [h]
    · exact .inl rfl
    · exact .inr rfl

/-! ## Unified newlines -/

/-- **Unifying the newlines** of a text does not change its lines. -/
theorem lines_unifyNewlines (s : Text) : lines (unifyNewlines s) = lines s := by
  induction s using unifyNewlines.induct with
  | case1 => rfl
  | case2 r ih => rw [unifyNewlines, lines_feed_cons, ih, lines_return_feed_cons]
  | case3 r hne ih =>
    rw [unifyNewlines, lines_feed_cons, ih, lines_cons_of_isLineEnd (fun s _ => hne s) (by decide)]
    exact hne
  | case4 c r hne hcr ih =>
    have hcr' : c ≠ '\r' := fun h => hcr h
    rw [unifyNewlines]
    · cases hc : isLineEnd c with
      | true =>
        rw [lines_cons_of_isLineEnd (fun s hs => absurd hs hcr') hc,
          lines_cons_of_isLineEnd (fun s hs => absurd hs hcr') hc, ih]
      | false => rw [lines_cons_of_not_isLineEnd hc, lines_cons_of_not_isLineEnd hc, ih]
    · exact hne
    · exact hcr

end Text

end Desinence
