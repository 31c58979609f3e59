/-
Strings of JSON, as they are read.

The reader goes by what stands next: an escape of a letter, the digits of a unit, or a
character as it is. It sees a pair only from behind, when the half that follows an escaped
one has already been read; the grammar says in front of an escape whether it begins a pair.
The two agree because an escaped second half is the only way for a string to begin with
such a half where its text begins with a backslash.
-/
import Desinence.Proofs.Json.Grammar

set_option autoImplicit false

namespace Desinence

namespace Json

/-! ## Units -/

/-- All digits are characters of ASCII. -/
theorem toNat_lt_of_hexValue? {c : Char} {n : Nat} (h : hexValue? c = some n) : c.toNat < 128 := by
  have hletter : c.val.toNat = c.toNat := rfl
  have h9 : ('9' : Char).val.toNat = 57 := rfl
  have hf : ('f' : Char).val.toNat = 102 := rfl
  have hF : ('F' : Char).val.toNat = 70 := rfl
  simp only [hexValue?, Bool.and_eq_true, decide_eq_true_eq, Char.le_def,
    UInt32.le_iff_toNat_le] at h
  split at h
  · omega
  split at h
  · omega
  split at h
  · omega
  · exact absurd h (by simp)

/-- The digits that are read are those of the grammar. -/
theorem hexValue?_eq_some_iff {c : Char} {n : Nat} : hexValue? c = some n ↔ IsHexDigit c n := by
  -- The reader is tried on every character that can be a digit.
  have hascii : ∀ m < 128, ∀ k ∈ hexValue? (Char.ofNat m), IsHexDigit (Char.ofNat m) k := by
    unfold IsHexDigit
    decide +kernel
  have hsmall : ∀ p ∈ "0123456789abcdef".toList.zipIdx, hexValue? p.1 = some p.2 := by
    decide +kernel
  have hcapital : ∀ p ∈ "0123456789ABCDEF".toList.zipIdx, hexValue? p.1 = some p.2 := by
    decide +kernel
  constructor
  · intro h
    have hdigit := hascii c.toNat (toNat_lt_of_hexValue? h) n
    rw [Char.ofNat_toNat] at hdigit
    exact hdigit h
  · rintro (h | h)
    · exact hsmall (c, n) (List.mk_mem_zipIdx_iff_getElem?.2 h)
    · exact hcapital (c, n) (List.mk_mem_zipIdx_iff_getElem?.2 h)

/-- The units that are read are those of the grammar. -/
theorem unitOf?_eq_some_iff {a b c d : Char} {n : Nat} :
    unitOf? a b c d = some n ↔ IsUnit [a, b, c, d] n := by
  simp only [unitOf?, Option.bind_eq_bind, Option.pure_def, Option.bind_eq_some_iff,
    Option.some.injEq, hexValue?_eq_some_iff]
  constructor
  · rintro ⟨x, hx, y, hy, z, hz, w, hw, rfl⟩
    have hunit := IsUnit.digits hx hy hz hw
    have hvalue : ((x * 16 + y) * 16 + z) * 16 + w = (x * 16 + y) * 256 + z * 16 + w := by omega
    rwa [hvalue] at hunit
  · rintro ⟨hx, hy, hz, hw⟩
    exact ⟨_, hx, _, hy, _, hz, _, hw, by omega⟩

/-- A unit is spelled by four digits. -/
theorem IsUnit.exists_digits {digits : Text} {n : Nat} (h : IsUnit digits n) :
    ∃ a b c d, digits = [a, b, c, d] ∧ unitOf? a b c d = some n := by
  cases h with
  | digits hx hy hz hw => exact ⟨_, _, _, _, rfl, unitOf?_eq_some_iff.2 (.digits hx hy hz hw)⟩

/-- What begins with the escapes of two units begins with one of them only. -/
theorem IsUnit.eq_of_append {digits digits' : Text} {m n : Nat} {g g' : Glyphs}
    (hm : IsUnit digits m) (hn : IsUnit digits' n)
    (h : unitEscape digits ++ g = unitEscape digits' ++ g') : m = n ∧ g = g' := by
  obtain ⟨a, b, c, d, rfl, hread⟩ := hm.exists_digits
  obtain ⟨a', b', c', d', rfl, hread'⟩ := hn.exists_digits
  simp only [unitEscape, Text.glyphs, List.map_cons, List.map_nil, List.cons_append,
    List.nil_append, List.cons.injEq, Glyph.char.injEq, true_and] at h
  obtain ⟨rfl, rfl, rfl, rfl, rfl⟩ := h
  exact ⟨Option.some.inj (hread.symm.trans hread'), rfl⟩

theorem not_isLowHalf_of_isHighHalf {n : Nat} (h : Glyph.isHighHalf n = true) :
    Glyph.isLowHalf n = false := by
  simp only [Glyph.isHighHalf, Glyph.isLowHalf, Bool.and_eq_true, decide_eq_true_eq,
    Bool.and_eq_false_iff, decide_eq_false_iff_not] at h ⊢
  omega

theorem Glyph.ofCode_of_isLowHalf {n : Nat} (h : Glyph.isLowHalf n = true) :
    Glyph.ofCode n = .half n := by
  rw [Glyph.ofCode, h, Bool.or_true, if_pos rfl]

theorem Glyph.eq_of_ofCode_eq_half {m n : Nat} (h : Glyph.ofCode m = .half n) : m = n := by
  rw [Glyph.ofCode] at h
  split at h
  · exact Glyph.half.inj h
  · exact Glyph.noConfusion h

/-! ## Escapes in front -/

/-- **Content behind a backslash**: the escape of a letter, of a unit, or of a pair. -/
theorem Content.cases_of_backslash {g s : Glyphs} (h : Content (.char '\\' :: g) s) :
    (∃ e c g' s', (e, c) ∈ letterEscapes ∧ g = .char e :: g' ∧ s = .char c :: s' ∧
      Content g' s') ∨
    (∃ digits n g' s', IsUnit digits n ∧ .char '\\' :: g = unitEscape digits ++ g' ∧
      s = .ofCode n :: s' ∧ Content g' s') ∨
    ∃ high low m n g' s', IsUnit high m ∧ Glyph.isHighHalf m = true ∧ IsUnit low n ∧
      Glyph.isLowHalf n = true ∧ .char '\\' :: g = unitEscape high ++ (unitEscape low ++ g') ∧
      s = .ofPair m n :: s' := by
  generalize htext : Glyph.char '\\' :: g = text at h
  cases h with
  | nil => exact absurd htext (by simp)
  | plain _ hslash =>
    obtain ⟨hc, -⟩ := List.cons.inj htext
    exact absurd (Glyph.char.inj hc).symm hslash
  | half => exact absurd (List.cons.inj htext).1 (by simp)
  | letter he hg =>
    obtain ⟨-, rfl⟩ := List.cons.inj htext
    exact .inl ⟨_, _, _, _, he, rfl, rfl, hg⟩
  | unit hunit _ hg => exact .inr (.inl ⟨_, _, _, _, hunit, rfl, rfl, hg⟩)
  | pair hm hhigh hn hlow _ => exact .inr (.inr ⟨_, _, _, _, _, _, hm, hhigh, hn, hlow, rfl, rfl⟩)

theorem not_mem_letterEscapes (c : Char) : ('u', c) ∉ letterEscapes := by
  simp [letterEscapes]

/-- **The escape of a second half** is that half in front. -/
theorem Content.of_low {digits : Text} {n : Nat} {g s : Glyphs} (hunit : IsUnit digits n)
    (hlow : Glyph.isLowHalf n = true) (h : Content (unitEscape digits ++ g) s) :
    ∃ more, s = .half n :: more ∧ Content g more := by
  obtain ⟨e, c, g', s', he, htext, -⟩ | ⟨digits', m, g', s', hm, htext, rfl, hg⟩ |
    ⟨high, low, m, n', g', s', hm, hhigh, -, -, htext, -⟩ := Content.cases_of_backslash h
  · obtain ⟨hu, -⟩ := List.cons.inj htext
    rw [← Glyph.char.inj hu] at he
    exact absurd he (not_mem_letterEscapes c)
  · obtain ⟨rfl, rfl⟩ := hunit.eq_of_append hm htext
    exact ⟨s', congrArg (· :: s') (Glyph.ofCode_of_isLowHalf hlow), hg⟩
  · obtain ⟨rfl, -⟩ := hunit.eq_of_append hm htext
    rw [not_isLowHalf_of_isHighHalf hhigh] at hlow
    exact Bool.noConfusion hlow

/-- Behind a backslash a half is that of its escape. -/
theorem Content.lowHalfAhead {n : Nat} {g more : Glyphs} (hlow : Glyph.isLowHalf n = true)
    (h : Content (.char '\\' :: g) (.half n :: more)) : LowHalfAhead (.char '\\' :: g) := by
  obtain ⟨e, c, g', s', -, -, hs, -⟩ | ⟨digits, m, g', s', hm, htext, hs, -⟩ |
    ⟨high, low, m, n', g', s', -, -, -, -, -, hs⟩ := h.cases_of_backslash
  · exact absurd (List.cons.inj hs).1 (by simp)
  · obtain rfl := Glyph.eq_of_ofCode_eq_half (List.cons.inj hs).1.symm
    exact ⟨digits, m, g', hm, hlow, htext⟩
  · exact absurd (List.cons.inj hs).1 (by simp [Glyph.ofPair])

/-! ## Units in front -/

section Unit

variable {digits : Text} {m n : Nat} {g s r : Glyphs}

/-- A unit that finds its second half. -/
theorem prependUnit_of_pair {low : Text} (hhigh : Glyph.isHighHalf m = true) (hn : IsUnit low n)
    (hlow : Glyph.isLowHalf n = true) :
    prependUnit m (unitEscape low ++ g) (.half n :: s) = .ofPair m n :: s := by
  obtain ⟨a, b, c, d, rfl, -⟩ := hn.exists_digits
  have hjoin : prependUnit m (.char '\\' :: (Text.glyphs ['u', a, b, c, d] ++ g)) (.half n :: s) =
      .ofPair m n :: s := by
    rw [prependUnit, hhigh, hlow]
    rfl
  exact hjoin

/-- A unit that finds none. The quote mark at the end is no backslash, so what stands in
front of it decides. -/
theorem prependUnit_of_not_pair (hpair : ¬(Glyph.isHighHalf m = true ∧ LowHalfAhead g))
    (h : Content g s) : prependUnit m (g ++ .char '"' :: r) s = .ofCode m :: s := by
  rw [prependUnit.eq_def]
  split
  next next low more hnext =>
    rw [if_neg]
    rw [Bool.and_eq_true]
    rintro ⟨hhigh, hlow⟩
    rcases g with _ | ⟨x, g⟩
    · exact absurd (List.cons.inj hnext).1 (by decide)
    · obtain ⟨rfl, -⟩ := List.cons.inj hnext
      exact hpair ⟨hhigh, h.lowHalfAhead hlow⟩
  · rfl

/-- **A unit joins what follows or stands alone**, as the grammar has it. -/
theorem content_prependUnit (hunit : IsUnit digits m) (h : Content g s) :
    Content (unitEscape digits ++ g) (prependUnit m (g ++ .char '"' :: r) s) := by
  by_cases hpair : Glyph.isHighHalf m = true ∧ LowHalfAhead g
  · obtain ⟨hhigh, low, n, g, hn, hlow, rfl⟩ := hpair
    obtain ⟨more, rfl, hmore⟩ := Content.of_low hn hlow h
    rw [List.append_assoc, prependUnit_of_pair hhigh hn hlow]
    exact .pair hunit hhigh hn hlow hmore
  · rw [prependUnit_of_not_pair hpair h]
    exact .unit hunit hpair h

/-- The digits of a unit in front of a string. -/
theorem readString_unit {k : Nat} (hunit : IsUnit digits m) (h : readString g = some (s, k)) :
    readString (unitEscape digits ++ g) = some (prependUnit m g s, k + 6) := by
  obtain ⟨a, b, c, d, rfl, hdigits⟩ := hunit.exists_digits
  have hread : readString (.char '\\' :: .char 'u' :: .char a :: .char b :: .char c :: .char d :: g)
      = some (prependUnit m g s, k + 6) := by
    rw [readString, hdigits, h]
    rfl
  exact hread

theorem length_unitEscape (hunit : IsUnit digits m) : (unitEscape digits).length = 6 := by
  obtain ⟨a, b, c, d, rfl, -⟩ := hunit.exists_digits
  rfl

end Unit

/-! ## Whole strings -/

/-- The escapes that are read are those of the grammar. -/
theorem escapeOf?_eq_some_iff {e c : Char} : escapeOf? e = some c ↔ (e, c) ∈ letterEscapes := by
  constructor
  · intro h
    rw [escapeOf?] at h
    split at h
    next he =>
      obtain rfl := Option.some.inj h
      obtain rfl | rfl | rfl := he <;> decide
    -- Each of the other letters has a line of its own.
    iterate 5
      split at h
      next he =>
        obtain rfl := Option.some.inj h
        rw [he]
        decide
    exact absurd h (by simp)
  · intro h
    simp only [letterEscapes, List.mem_cons, Prod.mk.injEq, List.not_mem_nil, or_false] at h
    obtain ⟨rfl, rfl⟩ | ⟨rfl, rfl⟩ | ⟨rfl, rfl⟩ | ⟨rfl, rfl⟩ | ⟨rfl, rfl⟩ | ⟨rfl, rfl⟩ |
      ⟨rfl, rfl⟩ | ⟨rfl, rfl⟩ := h <;> rfl

/-- **What is read as a string** is one, up to the quote mark that ends it. -/
theorem content_of_readString {g s : Glyphs} {n : Nat} (h : readString g = some (s, n)) :
    ∃ b r, g = b ++ .char '"' :: r ∧ n = b.length + 1 ∧ Content b s := by
  induction g using readString.induct generalizing s n with
  | case1 => exact absurd h (by simp [readString])
  | case2 r =>
    obtain ⟨rfl, rfl⟩ := Prod.mk.inj (Option.some.inj h)
    exact ⟨[], r, rfl, rfl, .nil⟩
  | case3 a b c d r ih =>
    simp only [readString, Option.bind_eq_bind, Option.bind_eq_some_iff, Option.pure_def,
      Option.some.injEq, Prod.exists, Prod.mk.injEq] at h
    obtain ⟨unit, hunit, s', n', hr, rfl, rfl⟩ := h
    obtain ⟨b', r', rfl, rfl, hb⟩ := ih hr
    have hdigits := unitOf?_eq_some_iff.1 hunit
    refine ⟨_, r', rfl, ?_, content_prependUnit hdigits hb⟩
    rw [List.length_append, length_unitEscape hdigits]
    omega
  | case4 e r hne ih =>
    rw [readString.eq_4 e r hne] at h
    simp only [Option.bind_eq_bind, Option.bind_eq_some_iff, Option.pure_def,
      Option.some.injEq, Prod.exists, Prod.mk.injEq] at h
    obtain ⟨c, hc, s', n', hr, rfl, rfl⟩ := h
    obtain ⟨b', r', rfl, rfl, hb⟩ := ih hr
    exact ⟨_, r', rfl, rfl, .letter (escapeOf?_eq_some_iff.1 hc) hb⟩
  | case5 r hunit hletter =>
    rw [readString.eq_5 r hunit hletter] at h
    exact absurd h (by simp)
  | case6 c r hquote h1 h2 hslash hc =>
    rw [readString.eq_6 c r hquote h1 h2 hslash, if_pos hc] at h
    exact absurd h (by simp)
  | case7 c r hquote h1 h2 hslash hc ih =>
    rw [readString.eq_6 c r hquote h1 h2 hslash, if_neg hc] at h
    obtain ⟨⟨s', n'⟩, hr, hs⟩ := Option.map_eq_some_iff.1 h
    obtain ⟨rfl, rfl⟩ := Prod.mk.inj hs
    obtain ⟨b', r', rfl, rfl, hb⟩ := ih hr
    exact ⟨_, r', rfl, rfl, .plain hquote hslash (Nat.le_of_not_lt hc) hb⟩
  | case8 k r ih =>
    rw [readString.eq_7] at h
    obtain ⟨⟨s', n'⟩, hr, hs⟩ := Option.map_eq_some_iff.1 h
    obtain ⟨rfl, rfl⟩ := Prod.mk.inj hs
    obtain ⟨b', r', rfl, rfl, hb⟩ := ih hr
    exact ⟨_, r', rfl, rfl, .half hb⟩

/-- **A string is read** up to its quote mark, whatever follows. -/
theorem readString_of_content {g s : Glyphs} (h : Content g s) (r : Glyphs) :
    readString (g ++ .char '"' :: r) = some (s, g.length + 1) := by
  induction h with
  | nil => rfl
  | plain hquote hslash hc _ ih =>
    rw [List.cons_append, readString.eq_6 _ _ hquote (fun _ _ _ _ _ _ => hslash)
      (fun _ _ _ => hslash) hslash, if_neg (Nat.not_lt.2 hc), ih]
    rfl
  | half _ ih =>
    rw [List.cons_append, readString.eq_7, ih]
    rfl
  | @letter e c g s he _ ih =>
    have hne : e ≠ 'u' := by
      rintro rfl
      exact not_mem_letterEscapes c he
    rw [List.cons_append, List.cons_append, readString.eq_4 _ _ fun _ _ _ _ _ _ h => hne h,
      escapeOf?_eq_some_iff.2 he, ih]
    rfl
  | unit hunit hpair hg ih =>
    rw [List.append_assoc, readString_unit hunit ih, prependUnit_of_not_pair hpair hg,
      List.length_append, length_unitEscape hunit, Nat.add_comm 6, Nat.add_right_comm]
  | @pair high low m n g s hm hhigh hn hlow hg ih =>
    -- The second half is read first and alone; then the first joins it.
    have hsecond : readString (unitEscape low ++ (g ++ .char '"' :: r)) =
        some (.half n :: s, g.length + 1 + 6) := by
      have halone : ¬(Glyph.isHighHalf n = true ∧ LowHalfAhead g) := by
        rintro ⟨hn', -⟩
        rw [not_isLowHalf_of_isHighHalf hn'] at hlow
        exact Bool.noConfusion hlow
      rw [readString_unit hn ih, prependUnit_of_not_pair halone hg, Glyph.ofCode_of_isLowHalf hlow]
    rw [List.append_assoc, List.append_assoc, readString_unit hm hsecond,
      prependUnit_of_pair hhigh hn hlow, List.length_append, List.length_append,
      length_unitEscape hm, length_unitEscape hn]
    congr 2
    omega

end Json

end Desinence
