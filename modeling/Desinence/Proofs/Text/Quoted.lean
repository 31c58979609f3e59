/-
Quoted texts, and how they are read back.

A quoted text is made of printable characters only, so it is one line whatever the text.

Nothing of the text is lost in it. What shows a character can be told from what follows: an
escape begins with a backslash, which no character shown as it is does, and its letter says
how many digits belong to it. `readShown` reads one character that way, in front of any
rest (`readShown_escapeChar`). The closing mark stands where no shown character begins with
it, so two texts that are shown alike end in the same place and are the same, character by
character (`quoted_inj`).
-/
import Mathlib.Algebra.Group.Nat.Defs
import Mathlib.Tactic.SplitIfs
import Desinence.Text.Quoted
import Desinence.Proofs.Text.Lines

set_option autoImplicit false

namespace Desinence

/-! ## Printable characters -/

/-- The characters of ASCII from the space to the tilde are printable. -/
theorem isPrintable_of_ascii {c : Char} (hlow : 0x20 ≤ c.toNat) (hhigh : c.toNat ≤ 0x7E) :
    isPrintable c = true := by
  have hranges : ∀ r ∈ unprintableRanges, r.2 < 0x20 ∨ 0x7E < r.1 := by
    decide +kernel
  rw [isPrintable, Bool.not_eq_true', List.any_eq_false]
  intro r hr hin
  rw [Bool.and_eq_true, decide_eq_true_eq, decide_eq_true_eq] at hin
  have hout := hranges r hr
  omega

/-- **No line boundary is printable.** -/
theorem isPrintable_of_isLineEnd {c : Char} (h : isLineEnd c = true) : isPrintable c = false := by
  have hboundaries : ∀ n ∈ [0x0A, 0x0B, 0x0C, 0x0D, 0x1C, 0x1D, 0x1E, 0x85, 0x2028, 0x2029],
      isPrintable (Char.ofNat n) = false := by
    decide +kernel
  have hc : c.toNat ∈ [0x0A, 0x0B, 0x0C, 0x0D, 0x1C, 0x1D, 0x1E, 0x85, 0x2028, 0x2029] := by
    simp only [isLineEnd, Bool.or_eq_true, Bool.and_eq_true, decide_eq_true_eq, beq_iff_eq] at h
    simp only [List.mem_cons, List.not_mem_nil, or_false]
    omega
  have hprintable := hboundaries c.toNat hc
  rwa [Char.ofNat_toNat] at hprintable

/-- A printable text is one line. -/
theorem Text.oneLine_of_isPrintable {t : Text} (h : ∀ c ∈ t, isPrintable c = true) :
    t.OneLine := by
  intro c hc
  rw [Bool.eq_false_iff]
  intro hend
  have hprintable := h c hc
  rw [isPrintable_of_isLineEnd hend] at hprintable
  exact Bool.false_ne_true hprintable

/-! ## Hexadecimal digits -/

theorem exists_of_mem_hexDigits {width n : Nat} {c : Char} (h : c ∈ hexDigits width n) :
    ∃ m < 16, c = hexDigit m := by
  induction width generalizing n with
  | zero => exact absurd h List.not_mem_nil
  | succ width ih =>
    rw [hexDigits, List.mem_append, List.mem_singleton] at h
    obtain h | rfl := h
    · exact ih h
    · exact ⟨n % 16, Nat.mod_lt n (by decide), rfl⟩

theorem length_hexDigits (width n : Nat) : (hexDigits width n).length = width := by
  induction width generalizing n with
  | zero => rfl
  | succ width ih => rw [hexDigits, List.length_append, ih, List.length_singleton]

/-- The number that hexadecimal digits spell. -/
def hexNumber (t : Text) : Nat :=
  t.foldl (fun n c => 16 * n + (hexValue? c).getD 0) 0

/-- A number is read from its digits, if they are enough for it. -/
theorem hexNumber_hexDigits {width n : Nat} (h : n < 16 ^ width) :
    hexNumber (hexDigits width n) = n := by
  induction width generalizing n with
  | zero =>
    rw [Nat.pow_zero, Nat.lt_one_iff] at h
    rw [h]
    rfl
  | succ width ih =>
    have hfront : hexNumber (hexDigits width (n / 16)) = n / 16 := by
      apply ih
      rw [Nat.pow_succ] at h
      omega
    have hdigit := hexValue?_hexDigit (n % 16) (Nat.mod_lt n (by decide))
    rw [hexNumber] at hfront ⊢
    rw [hexDigits, List.foldl_append, hfront, List.foldl_cons, List.foldl_nil, hdigit,
      Option.getD_some]
    omega

namespace Text

theorem quoteMark_cases (t : Text) : t.quoteMark = '\'' ∨ t.quoteMark = '"' := by
  rw [quoteMark]
  split
  · exact .inr rfl
  · exact .inl rfl

section Shown

variable {mark c : Char}

/-! ## What is shown -/

/-- Whatever the character, it is shown by printable ones. -/
theorem isPrintable_of_mem_escapeChar {d : Char} (hmark : isPrintable mark = true)
    (h : d ∈ escapeChar mark c) : isPrintable d = true := by
  have hletters : ∀ d ∈ ['\\', 't', 'n', 'r', 'x', 'u', 'U'], isPrintable d = true :=
    List.all_eq_true.1 (by decide +kernel)
  have hpair : ∀ letter ∈ ['t', 'n', 'r', 'x', 'u', 'U'], ∀ e ∈ ['\\', letter],
      isPrintable e = true := by
    intro letter hletter e he
    obtain rfl | he := List.mem_cons.1 he
    · exact hletters _ List.mem_cons_self
    · rw [List.mem_singleton.1 he]
      exact hletters letter (List.mem_cons_of_mem _ hletter)
  have hdigits : ∀ letter ∈ ['x', 'u', 'U'], ∀ width n,
      d ∈ '\\' :: letter :: hexDigits width n → isPrintable d = true := by
    intro letter hletter width n hd
    have hdigit : ∀ m < 16, 0x20 ≤ (hexDigit m).toNat ∧ (hexDigit m).toNat ≤ 0x7E := by
      decide
    obtain hd | hd := List.mem_append.1 (show d ∈ ['\\', letter] ++ hexDigits width n from hd)
    · exact hpair letter (List.mem_append_right ['t', 'n', 'r'] hletter) d hd
    · obtain ⟨m, hm, rfl⟩ := exists_of_mem_hexDigits hd
      exact isPrintable_of_ascii (hdigit m hm).1 (hdigit m hm).2
  rw [escapeChar] at h
  split_ifs at h with hself htab hfeed hreturn hprintable hbyte hplane
  · obtain rfl | hd := List.mem_cons.1 h
    · exact hletters _ List.mem_cons_self
    · obtain rfl := List.mem_singleton.1 hd
      obtain rfl | rfl := hself
      · exact hletters _ List.mem_cons_self
      · exact hmark
  · exact hpair 't' (by decide) d h
  · exact hpair 'n' (by decide) d h
  · exact hpair 'r' (by decide) d h
  · rw [List.mem_singleton.1 h]
    exact hprintable
  · exact hdigits 'x' (by decide) _ _ h
  · exact hdigits 'u' (by decide) _ _ h
  · exact hdigits 'U' (by decide) _ _ h

/-- **A quoted text is printable**, whatever the text. -/
theorem isPrintable_of_mem_quoted {t : Text} (h : c ∈ t.quoted) : isPrintable c = true := by
  have hmark : isPrintable t.quoteMark = true := by
    obtain hmark | hmark := t.quoteMark_cases
    · rw [hmark]
      exact isPrintable_of_ascii (by decide) (by decide)
    · rw [hmark]
      exact isPrintable_of_ascii (by decide) (by decide)
  rw [quoted, List.mem_append, List.mem_cons, List.mem_singleton] at h
  obtain (rfl | h) | rfl := h
  · exact hmark
  · obtain ⟨d, -, hd⟩ := List.mem_flatMap.1 h
    exact isPrintable_of_mem_escapeChar hmark hd
  · exact hmark

/-- **A quoted text is one line**, whatever the text. -/
theorem oneLine_quoted (t : Text) : t.quoted.OneLine :=
  oneLine_of_isPrintable fun _ => isPrintable_of_mem_quoted

/-! ## Reading back -/

/-- The number of hexadecimal digits behind the letter of an escape. -/
def escapeWidth : Char → Nat
  | 'x' => 2
  | 'u' => 4
  | 'U' => 8
  | _ => 0

/-- **Reads what shows one character**: the character, and what follows. -/
def readShown : Text → Option (Char × Text)
  | [] => none
  | '\\' :: letter :: r =>
    let width := escapeWidth letter
    if letter = 't' then some ('\t', r)
    else if letter = 'n' then some ('\n', r)
    else if letter = 'r' then some ('\r', r)
    else if width = 0 then some (letter, r)
    else some (Char.ofNat (hexNumber (r.take width)), r.drop width)
  | c :: r => some (c, r)

/-- A character by its code point, in digits enough. -/
theorem readShown_digits {letter : Char} {r : Text} (hwidth : escapeWidth letter ≠ 0)
    (h : c.toNat < 16 ^ escapeWidth letter) :
    readShown ('\\' :: letter :: (hexDigits (escapeWidth letter) c.toNat ++ r)) = some (c, r) := by
  have hletter : letter ≠ 't' ∧ letter ≠ 'n' ∧ letter ≠ 'r' := by
    refine ⟨?_, ?_, ?_⟩ <;> rintro rfl <;> exact hwidth rfl
  have hlength := length_hexDigits (escapeWidth letter) c.toNat
  rw [readShown, if_neg hletter.1, if_neg hletter.2.1, if_neg hletter.2.2, if_neg hwidth,
    List.take_left' hlength, List.drop_left' hlength, hexNumber_hexDigits h, Char.ofNat_toNat]

/-- **A shown character is read as itself**, in front of any rest. -/
theorem readShown_escapeChar (hmark : mark = '\'' ∨ mark = '"') (c : Char) (r : Text) :
    readShown (escapeChar mark c ++ r) = some (c, r) := by
  have hbound : c.toNat < 0x110000 := by
    have hvalid : c.toNat < 0xD800 ∨ (0xDFFF < c.toNat ∧ c.toNat < 0x110000) := c.valid
    omega
  rw [escapeChar]
  split_ifs with hself htab hfeed hreturn hprintable hbyte hplane
  · obtain rfl | rfl := hself
    · rfl
    · obtain rfl | rfl := hmark <;> rfl
  · rw [htab]
    rfl
  · rw [hfeed]
    rfl
  · rw [hreturn]
    rfl
  · rw [not_or] at hself
    rw [List.singleton_append, readShown]
    exact fun _ _ hslash => absurd hslash hself.1
  · exact readShown_digits (by decide) hbyte
  · exact readShown_digits (by decide) hplane
  · exact readShown_digits (by decide) (Nat.lt_trans hbound (by decide))

/-- No shown character begins with the mark. -/
theorem mark_cons_ne_escapeChar_append (hmark : mark = '\'' ∨ mark = '"') (c : Char) (r s : Text) :
    mark :: r ≠ escapeChar mark c ++ s := by
  intro h
  have hslash : mark ≠ '\\' := by
    obtain rfl | rfl := hmark <;> decide
  have hread : readShown (mark :: r) = some (mark, r) := by
    rw [readShown]
    exact fun _ _ heq => absurd heq hslash
  -- It could only show the mark itself, and that is escaped.
  rw [h, readShown_escapeChar hmark, Option.some.injEq, Prod.mk.injEq] at hread
  rw [hread.1, escapeChar, if_pos (.inr rfl)] at h
  exact hslash (List.cons.inj h).1

/-- Two escaped texts up to the mark are those of one text. The induction is on the first, in
front of any rests. -/
theorem flatMap_escapeChar_inj (hmark : mark = '\'' ∨ mark = '"') {t u r s : Text}
    (h : t.flatMap (escapeChar mark) ++ mark :: r = u.flatMap (escapeChar mark) ++ mark :: s) :
    t = u ∧ r = s := by
  induction t generalizing u with
  | nil =>
    cases u with
    | nil => exact ⟨rfl, (List.cons.inj h).2⟩
    | cons d u =>
      rw [List.flatMap_cons, List.append_assoc] at h
      exact absurd h (mark_cons_ne_escapeChar_append hmark d _ _)
  | cons c t ih =>
    rw [List.flatMap_cons, List.append_assoc] at h
    cases u with
    | nil => exact absurd h.symm (mark_cons_ne_escapeChar_append hmark c _ _)
    | cons d u =>
      rw [List.flatMap_cons, List.append_assoc] at h
      have hread := congrArg readShown h
      rw [readShown_escapeChar hmark, readShown_escapeChar hmark, Option.some.injEq,
        Prod.mk.injEq] at hread
      obtain ⟨rfl, hrest⟩ := hread
      obtain ⟨rfl, hrs⟩ := ih hrest
      exact ⟨rfl, hrs⟩

/-- **Quoting loses nothing**: texts that are shown alike are the same. -/
theorem quoted_inj {t u : Text} (h : t.quoted = u.quoted) : t = u := by
  rw [quoted, quoted, List.cons_append, List.cons_append, List.cons.injEq] at h
  obtain ⟨hmark, hbody⟩ := h
  rw [← hmark] at hbody
  exact (flatMap_escapeChar_inj t.quoteMark_cases hbody).1

end Shown

end Text

end Desinence
