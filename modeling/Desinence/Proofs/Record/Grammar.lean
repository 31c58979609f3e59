/-
The grammar of records, stated on the line itself.

`RuleRecord p line` and `HeaderRecord p line` spell a line out, part by part and
with the blanks between the parts; `RuleParts.read?` and `HeaderParts.read?`
accept exactly these lines. Both kinds begin alike: a brace, a quoted field, a
comma, a numeral (`readFront`). They part at the comma after that numeral. A
header goes on with a second numeral there, a rule never does, so no line is
both. The terminator makes no difference: its brace and semicolon stand behind
the place where the two part.
-/
import Desinence.Record
import Desinence.Proofs.Record.Part

set_option autoImplicit false

namespace Desinence

open Record

/-! ## Spelling -/

/-- **A rule record** at the beginning of a line, which may go on with anything
behind the closing brace. -/
inductive RuleRecord (p : RuleParts) : Text → Prop
  | spelled {w₁ w₂ w₃ w₄ replacement exceptions t : Text} :
      Blanks w₁ → Blanks w₂ → Blanks w₃ → Blanks w₄ →
      '"' ∉ p.suffix → p.numeral.IsNumeral →
      OptionalField '"' '"' p.replacement replacement →
      OptionalField '{' '}' p.exceptions exceptions →
      RuleRecord p
        ('{' :: w₁ ++ '"' :: p.suffix ++ '"' :: w₂ ++ ',' :: w₃ ++ p.numeral ++
          replacement ++ exceptions ++ w₄ ++ '}' :: t)

/-- A list of conditions in a line: an opening brace or bracket, no line feed
behind it. -/
def IsConditions (t : Text) : Prop :=
  ∃ o r, t = o :: r ∧ (o = '{' ∨ o = '[') ∧ '\n' ∉ r

/-- **A header record**: the whole line, save perhaps one line feed at its
end. -/
inductive HeaderRecord (p : HeaderParts) : Text → Prop
  | spelled {w₁ w₂ w₃ w₄ w₅ w₆ w₇ final : Text} :
      Blanks w₁ → Blanks w₂ → Blanks w₃ → Blanks w₄ → Blanks w₅ → Blanks w₆ → Blanks w₇ →
      p.name ≠ [] → '"' ∉ p.name → p.minWord.IsNumeral → p.flag.IsNumeral →
      IsConditions p.conditions → (final = [] ∨ final = ['\n']) →
      HeaderRecord p
        ('{' :: w₁ ++ '"' :: p.name ++ '"' :: w₂ ++ ',' :: w₃ ++ p.minWord ++
          w₄ ++ ',' :: w₅ ++ p.flag ++ w₆ ++ ',' :: w₇ ++ p.conditions ++ final)

/-! ## The common front -/

namespace Record

/-- The quoted field and the numeral that both kinds of records begin with, and
the rest. -/
def readFront (line : Text) : Option (Text × Text × Text) := do
  let t ← readChar '{' line
  let (field, t) ← readQuoted t.skipBlanks
  let t ← readComma t
  let (numeral, t) ← readNumeral t
  return (field, numeral, t)

/-- Blanks and then something other than a digit. -/
theorem noDigit_blanks_append {w r : Text} {c : Char} (hw : Blanks w)
    (hc : isDigit c = false) : Text.NoDigit (w ++ c :: r) := by
  intro d hd
  cases w with
  | nil =>
    simp only [List.nil_append, List.head?_cons, Option.mem_some_iff] at hd
    exact hd ▸ hc
  | cons b w =>
    simp only [List.cons_append, List.head?_cons, Option.mem_some_iff] at hd
    subst hd
    by_contra hdd
    rw [Bool.not_eq_false] at hdd
    have hb := hw b List.mem_cons_self
    rw [isBlank_eq_false_of_isDigit hdd] at hb
    exact absurd hb (by decide)

/-- **The front of a record**, with its blanks. -/
theorem readFront_eq_some_iff {line field numeral t : Text} :
    readFront line = some (field, numeral, t) ↔
      ∃ w₁ w₂ w₃, Blanks w₁ ∧ Blanks w₂ ∧ Blanks w₃ ∧ '"' ∉ field ∧ numeral.IsNumeral ∧
        Text.NoDigit t ∧
        line = '{' :: w₁ ++ '"' :: field ++ '"' :: w₂ ++ ',' :: w₃ ++ numeral ++ t := by
  constructor
  · intro h
    simp only [readFront, Option.bind_eq_bind, Option.bind_eq_some_iff, Prod.exists,
      Option.pure_def, Option.some.injEq, Prod.mk.injEq, readChar_eq_some_iff] at h
    obtain ⟨r, rfl, f, s, hf, u, hu, n, v, hn, rfl, rfl, rfl⟩ := h
    -- From the front on, each reading shows the blanks that it skipped.
    obtain ⟨w₁, x, hw₁, hx, hq⟩ := firm_readQuoted.skipBlanks_eq_some_iff.1 hf
    obtain ⟨rfl, hfn⟩ := readBetween_eq_some_iff.1 hq
    obtain ⟨-, w₂, w₃, hw₂, hw₃, rfl⟩ := readComma_eq_some_iff.1 hu
    obtain ⟨rfl, hne, hd, hv⟩ := readNumeral_eq_some_iff.1 hn
    exact ⟨w₁, w₂, w₃, hw₁, hw₂, hw₃, hfn, ⟨hne, hd⟩, hv, by simp [hx]⟩
  · rintro ⟨w₁, w₂, w₃, hw₁, hw₂, hw₃, hf, hn, ht, rfl⟩
    -- From the end on, since a part can be read only in front of what follows it.
    have hnum : readNumeral (numeral ++ t) = some (numeral, t) :=
      readNumeral_eq_some_iff.2 ⟨rfl, hn.1, hn.2, ht⟩
    have hcomma : readComma (w₂ ++ ',' :: w₃ ++ (numeral ++ t)) = some (numeral ++ t) :=
      readComma_append hw₂ hw₃ (firm_readNumeral _ _ hnum)
    have hfield : readQuoted (Text.skipBlanks (w₁ ++ ('"' :: field ++ '"' ::
        (w₂ ++ ',' :: w₃ ++ (numeral ++ t))))) = some (field, w₂ ++ ',' :: w₃ ++ (numeral ++ t)) :=
      firm_readQuoted.skipBlanks_eq_some_iff.2
        ⟨w₁, _, hw₁, rfl, readBetween_eq_some_iff.2 ⟨rfl, hf⟩⟩
    have hline : '{' :: w₁ ++ '"' :: field ++ '"' :: w₂ ++ ',' :: w₃ ++ numeral ++ t
        = '{' :: (w₁ ++ ('"' :: field ++ '"' :: (w₂ ++ ',' :: w₃ ++ (numeral ++ t)))) := by
      simp
    rw [hline, readFront]
    simp only [readChar, if_true, Option.bind_eq_bind, Option.bind_some, hfield, hcomma, hnum,
      Option.pure_def]

/-- What follows the front of a rule record: the two optional fields and the
closing brace. -/
def readRuleTail (t : Text) : Option (Option Text × Option Text) := do
  let (replacement, t) := readOptional readQuoted t
  let (exceptions, t) := readOptional readBraced t
  let _ ← readChar '}' t.skipBlanks
  return (replacement, exceptions)

/-- What follows the front of a header record: the flag and the conditions. -/
def readHeaderTail (t : Text) : Option (Text × Text) := do
  let t ← readComma t
  let (flag, t) ← readNumeral t
  let t ← readComma t
  return (flag, ← readConditions t)

end Record

/-- A rule record is a front and a tail. -/
theorem RuleParts.read?_eq_some_iff_front {line : Text} {p : RuleParts} :
    RuleParts.read? line = some p ↔
      ∃ t, readFront line = some (p.suffix, p.numeral, t) ∧
        readRuleTail t = some (p.replacement, p.exceptions) := by
  simp only [RuleParts.read?, readFront, readRuleTail, Option.bind_eq_bind,
    Option.bind_eq_some_iff, Prod.exists, Option.pure_def, Option.some.injEq, Prod.mk.injEq]
  constructor
  · rintro ⟨a, ha, f, b, hb, c, hc, n, d, hd, e, he, rfl⟩
    exact ⟨d, ⟨a, ha, f, b, hb, c, hc, n, d, hd, rfl, rfl, rfl⟩, e, he, rfl, rfl⟩
  · rintro ⟨t, ⟨a, ha, f, b, hb, c, hc, n, d, hd, rfl, rfl, rfl⟩, e, he, hr, hx⟩
    exact ⟨a, ha, _, b, hb, c, hc, _, d, hd, e, he, by rw [hr, hx]⟩

/-- A header record is a front with a name that is not empty, and a tail. -/
theorem HeaderParts.read?_eq_some_iff_front {line : Text} {p : HeaderParts} :
    HeaderParts.read? line = some p ↔
      p.name ≠ [] ∧ ∃ t, readFront line = some (p.name, p.minWord, t) ∧
        readHeaderTail t = some (p.flag, p.conditions) := by
  simp only [HeaderParts.read?, readFront, readHeaderTail, Option.bind_eq_bind,
    Option.bind_eq_some_iff, Prod.exists, Option.pure_def, Option.some.injEq, Prod.mk.injEq,
    guard, Bool.not_eq_true', List.isEmpty_eq_false_iff]
  constructor
  · rintro ⟨a, ha, f, b, hb, u, hu, c, hc, n, d, hd, e, he, g, h, hg, i, hi, j, hj, rfl⟩
    refine ⟨?_, d, ⟨a, ha, f, b, hb, c, hc, n, d, hd, rfl, rfl, rfl⟩,
      e, he, g, h, hg, i, hi, j, hj, rfl, rfl⟩
    -- An empty name does not pass the guard, which is then `none`.
    intro hf
    rw [if_neg (fun hne => hne hf)] at hu
    simp at hu
  · rintro ⟨hne, t, ⟨a, ha, f, b, hb, c, hc, n, d, hd, rfl, rfl, rfl⟩, e, he, g, h, hg, i, hi,
      j, hj, rfl, rfl⟩
    exact ⟨a, ha, _, b, hb, (), by rw [if_pos hne], c, hc, _, d, hd, e, he, _, h, hg, i, hi,
      _, hj, rfl⟩

/-! ## The tail of a rule -/

namespace Record

/-- An optional field does not begin with a digit, nor does what follows it if
that does not either. -/
theorem OptionalField.noDigit_append {opening closing : Char} {body : Option Text} {s t : Text}
    (h : OptionalField opening closing body s) (ht : Text.NoDigit t) : Text.NoDigit (s ++ t) := by
  cases h with
  | missing => exact ht
  | present hw hv hb =>
    simp only [List.append_assoc, List.cons_append]
    exact noDigit_blanks_append hw (by decide)

/-- **The tail of a rule record.** -/
theorem readRuleTail_eq_some_iff {t : Text} {replacement exceptions : Option Text} :
    readRuleTail t = some (replacement, exceptions) ↔
      ∃ r e w rest, OptionalField '"' '"' replacement r ∧ OptionalField '{' '}' exceptions e ∧
        Blanks w ∧ t = r ++ e ++ w ++ '}' :: rest := by
  constructor
  · intro h
    cases hr : readOptional readQuoted t with
    | mk b u =>
    cases he : readOptional readBraced u with
    | mk x v =>
    simp only [readRuleTail, hr, he, Option.bind_eq_bind, Option.bind_eq_some_iff,
      Option.pure_def, Option.some.injEq, Prod.mk.injEq] at h
    obtain ⟨rest, hclose, rfl, rfl⟩ := h
    obtain ⟨r, hrf, rfl⟩ := optionalField_of_readOptional hr
    obtain ⟨e, hef, rfl⟩ := optionalField_of_readOptional he
    obtain ⟨w, y, hw, rfl, hy⟩ := (firm_readChar (by decide)).skipBlanks_eq_some_iff.1 hclose
    rw [readChar_eq_some_iff] at hy
    exact ⟨r, e, w, rest, hrf, hef, hw, by simp [hy]⟩
  · rintro ⟨r, e, w, rest, hr, he, hw, rfl⟩
    have hclose : readChar '}' (Text.skipBlanks (w ++ '}' :: rest)) = some rest := by
      rw [Text.skipBlanks_append hw (Text.flush_cons.2 (by decide)), readChar_eq_some_iff]
    -- The exceptions are read from what follows the replacement, be it there or not.
    have hx : readOptional readBraced (e ++ (w ++ '}' :: rest))
        = (exceptions, w ++ '}' :: rest) := by
      cases he with
      | missing => exact readOptional_no_comma hw (by decide) (by decide)
      | present hw' hv hb =>
        exact readOptional_present (by decide) hw' hv hb _
    have hq : readOptional readQuoted (r ++ (e ++ (w ++ '}' :: rest)))
        = (replacement, e ++ (w ++ '}' :: rest)) := by
      cases hr with
      | present hw' hv hb =>
        exact readOptional_present (by decide) hw' hv hb _
      | missing =>
        cases he with
        | missing => exact readOptional_no_comma hw (by decide) (by decide)
        | @present w' v body hw' hv hb =>
          -- The comma that is found is that of the exceptions.
          have ht : w' ++ ',' :: v ++ '{' :: body ++ ['}'] ++ (w ++ '}' :: rest)
              = w' ++ ',' :: v ++ '{' :: (body ++ '}' :: (w ++ '}' :: rest)) := by
            simp
          rw [List.nil_append, ht]
          exact readOptional_missing hw' hv (by decide) (by decide)
    rw [List.append_assoc, List.append_assoc, readRuleTail, hq]
    simp only [hx, hclose, Option.bind_eq_bind, Option.bind_some, Option.pure_def]

end Record

/-- **The rule grammar**: `RuleParts.read?` accepts the lines that begin with a
rule record, and finds its parts. -/
theorem RuleParts.read?_eq_some_iff {line : Text} {p : RuleParts} :
    RuleParts.read? line = some p ↔ RuleRecord p line := by
  rw [RuleParts.read?_eq_some_iff_front]
  constructor
  · rintro ⟨t, hf, ht⟩
    obtain ⟨w₁, w₂, w₃, hw₁, hw₂, hw₃, hs, hn, -, rfl⟩ := readFront_eq_some_iff.1 hf
    obtain ⟨r, e, w₄, rest, hr, he, hw₄, rfl⟩ := readRuleTail_eq_some_iff.1 ht
    have h := RuleRecord.spelled (t := rest) hw₁ hw₂ hw₃ hw₄ hs hn hr he
    simpa only [List.append_assoc] using h
  · rintro @⟨w₁, w₂, w₃, w₄, r, e, rest, hw₁, hw₂, hw₃, hw₄, hs, hn, hr, he⟩
    -- Nothing that may follow begins with a digit, so the numeral ends where it should.
    have hnd : Text.NoDigit (r ++ (e ++ (w₄ ++ '}' :: rest))) :=
      hr.noDigit_append (he.noDigit_append (noDigit_blanks_append hw₄ (by decide)))
    refine ⟨r ++ (e ++ (w₄ ++ '}' :: rest)), readFront_eq_some_iff.2
      ⟨w₁, w₂, w₃, hw₁, hw₂, hw₃, hs, hn, hnd, ?_⟩, readRuleTail_eq_some_iff.2
      ⟨r, e, w₄, rest, hr, he, hw₄, ?_⟩⟩
    · simp only [List.append_assoc]
    · simp only [List.append_assoc]

theorem RuleParts.read?_eq_none_iff {line : Text} :
    RuleParts.read? line = none ↔ ∀ p, ¬ RuleRecord p line := by
  rw [Option.eq_none_iff_forall_ne_some]
  exact forall_congr' fun p => not_congr RuleParts.read?_eq_some_iff

/-! ## The tail of a header -/

namespace Record

/-- **The conditions** take the line up to its end, a last line feed aside. -/
theorem readConditions_eq_some_iff {t conditions : Text} :
    readConditions t = some conditions ↔
      IsConditions conditions ∧
        ∃ final, (final = [] ∨ final = ['\n']) ∧ t = conditions ++ final := by
  constructor
  · intro h
    cases t with
    | nil => simp [readConditions] at h
    | cons o r =>
    by_cases ho : o = '{' ∨ o = '['
    · -- The conditions are what stands in front of the first line feed; it is
      -- left to see what the reader allows behind them.
      have hn : '\n' ∉ r.takeWhile (· != '\n') := by
        intro hm
        simpa using List.all_eq_true.1 List.all_takeWhile _ hm
      have hr : r.takeWhile (· != '\n') ++ r.dropWhile (· != '\n') = r :=
        List.takeWhile_append_dropWhile
      rw [readConditions, if_pos ho] at h
      split at h
      next hd =>
        rw [hd, List.append_nil] at hr
        rw [hr] at h hn
        rw [Option.some.injEq] at h
        exact ⟨⟨o, r, h.symm, ho, hn⟩, [], .inl rfl, by rw [← h, List.append_nil]⟩
      next hd =>
        rw [hd] at hr
        rw [Option.some.injEq] at h
        refine ⟨⟨o, _, h.symm, ho, hn⟩, ['\n'], .inr rfl, ?_⟩
        rw [← h, List.cons_append, hr]
      next => simp at h
    · rw [readConditions, if_neg ho] at h
      simp at h
  · rintro ⟨⟨o, r, rfl, ho, hn⟩, final, hf, rfl⟩
    have hpos : ∀ c ∈ r, (c != '\n') = true := by
      intro c hc
      simpa using fun he : c = '\n' => hn (he ▸ hc)
    rw [List.cons_append, readConditions, if_pos ho, List.takeWhile_append_of_pos hpos,
      List.dropWhile_append_of_pos hpos]
    rcases hf with rfl | rfl <;> simp

theorem firm_readConditions : Firm readConditions := by
  intro t x h
  obtain ⟨⟨o, r, rfl, ho, -⟩, final, -, rfl⟩ := readConditions_eq_some_iff.1 h
  rw [List.cons_append, Text.flush_cons]
  rcases ho with rfl | rfl <;> decide

/-- **The tail of a header record.** -/
theorem readHeaderTail_eq_some_iff {t flag conditions : Text} :
    readHeaderTail t = some (flag, conditions) ↔
      ∃ w₁ w₂ w₃ w₄ final, Blanks w₁ ∧ Blanks w₂ ∧ Blanks w₃ ∧ Blanks w₄ ∧ flag.IsNumeral ∧
        IsConditions conditions ∧ (final = [] ∨ final = ['\n']) ∧
        t = w₁ ++ ',' :: w₂ ++ flag ++ w₃ ++ ',' :: w₄ ++ conditions ++ final := by
  constructor
  · intro h
    simp only [readHeaderTail, Option.bind_eq_bind, Option.bind_eq_some_iff, Prod.exists,
      Option.pure_def, Option.some.injEq, Prod.mk.injEq] at h
    obtain ⟨a, ha, f, b, hb, c, hc, d, hd, rfl, rfl⟩ := h
    obtain ⟨-, w₁, w₂, hw₁, hw₂, rfl⟩ := readComma_eq_some_iff.1 ha
    obtain ⟨rfl, hne, hdig, -⟩ := readNumeral_eq_some_iff.1 hb
    obtain ⟨-, w₃, w₄, hw₃, hw₄, rfl⟩ := readComma_eq_some_iff.1 hc
    obtain ⟨hcond, final, hfinal, rfl⟩ := readConditions_eq_some_iff.1 hd
    exact ⟨w₁, w₂, w₃, w₄, final, hw₁, hw₂, hw₃, hw₄, ⟨hne, hdig⟩, hcond, hfinal, by simp⟩
  · rintro ⟨w₁, w₂, w₃, w₄, final, hw₁, hw₂, hw₃, hw₄, hflag, hcond, hfinal, rfl⟩
    have hc : readConditions (conditions ++ final) = some conditions :=
      readConditions_eq_some_iff.2 ⟨hcond, final, hfinal, rfl⟩
    have hcomma : readComma (w₃ ++ ',' :: w₄ ++ (conditions ++ final))
        = some (conditions ++ final) :=
      readComma_append hw₃ hw₄ (firm_readConditions _ _ hc)
    have hnd : Text.NoDigit (w₃ ++ ',' :: w₄ ++ (conditions ++ final)) := by
      rw [List.append_assoc]
      exact noDigit_blanks_append hw₃ (by decide)
    have hn : readNumeral (flag ++ (w₃ ++ ',' :: w₄ ++ (conditions ++ final)))
        = some (flag, w₃ ++ ',' :: w₄ ++ (conditions ++ final)) :=
      readNumeral_eq_some_iff.2 ⟨rfl, hflag.1, hflag.2, hnd⟩
    have hfirst := readComma_append hw₁ hw₂ (firm_readNumeral _ _ hn)
    have ht : w₁ ++ ',' :: w₂ ++ flag ++ w₃ ++ ',' :: w₄ ++ conditions ++ final
        = w₁ ++ ',' :: w₂ ++ (flag ++ (w₃ ++ ',' :: w₄ ++ (conditions ++ final))) := by
      simp
    rw [ht, readHeaderTail]
    simp only [hfirst, hn, hcomma, hc, Option.bind_eq_bind, Option.bind_some, Option.pure_def]

end Record

/-- **The header grammar**: `HeaderParts.read?` accepts the lines that are header
records, and finds their parts. -/
theorem HeaderParts.read?_eq_some_iff {line : Text} {p : HeaderParts} :
    HeaderParts.read? line = some p ↔ HeaderRecord p line := by
  rw [HeaderParts.read?_eq_some_iff_front]
  constructor
  · rintro ⟨hne, t, hf, ht⟩
    obtain ⟨w₁, w₂, w₃, hw₁, hw₂, hw₃, hq, hn, -, rfl⟩ := readFront_eq_some_iff.1 hf
    obtain ⟨w₄, w₅, w₆, w₇, final, hw₄, hw₅, hw₆, hw₇, hflag, hcond, hfinal, rfl⟩ :=
      readHeaderTail_eq_some_iff.1 ht
    have h := HeaderRecord.spelled hw₁ hw₂ hw₃ hw₄ hw₅ hw₆ hw₇ hne hq hn hflag hcond hfinal
    simpa only [List.append_assoc] using h
  · rintro @⟨w₁, w₂, w₃, w₄, w₅, w₆, w₇, final, hw₁, hw₂, hw₃, hw₄, hw₅, hw₆, hw₇, hne, hq,
      hn, hflag, hcond, hfinal⟩
    refine ⟨hne, w₄ ++ ',' :: w₅ ++ p.flag ++ w₆ ++ ',' :: w₇ ++ p.conditions ++ final,
      readFront_eq_some_iff.2 ⟨w₁, w₂, w₃, hw₁, hw₂, hw₃, hq, hn, ?_, ?_⟩,
      readHeaderTail_eq_some_iff.2 ⟨w₄, w₅, w₆, w₇, final, hw₄, hw₅, hw₆, hw₇, hflag, hcond,
        hfinal, rfl⟩⟩
    · simp only [List.append_assoc]
      exact noDigit_blanks_append hw₄ (by decide)
    · simp only [List.append_assoc]

theorem HeaderParts.read?_eq_none_iff {line : Text} :
    HeaderParts.read? line = none ↔ ∀ p, ¬ HeaderRecord p line := by
  rw [Option.eq_none_iff_forall_ne_some]
  exact forall_congr' fun p => not_congr HeaderParts.read?_eq_some_iff

/-! ## No line is both -/

/-- Where a second numeral follows the first, the line is no rule record. -/
theorem RuleParts.read?_eq_none_of_numeral {w₁ w₂ w₃ w₄ w₅ name numeral r : Text} {d : Char}
    (hw₁ : Blanks w₁) (hw₂ : Blanks w₂) (hw₃ : Blanks w₃) (hw₄ : Blanks w₄) (hw₅ : Blanks w₅)
    (hq : '"' ∉ name) (hn : numeral.IsNumeral) (hd : isDigit d = true) :
    RuleParts.read? ('{' :: w₁ ++ '"' :: name ++ '"' :: w₂ ++ ',' :: w₃ ++ numeral ++
      (w₄ ++ ',' :: w₅ ++ d :: r)) = none := by
  have hfront : readFront ('{' :: w₁ ++ '"' :: name ++ '"' :: w₂ ++ ',' :: w₃ ++ numeral ++
      (w₄ ++ ',' :: w₅ ++ d :: r)) = some (name, numeral, w₄ ++ ',' :: w₅ ++ d :: r) := by
    refine readFront_eq_some_iff.2 ⟨w₁, w₂, w₃, hw₁, hw₂, hw₃, hq, hn, ?_, rfl⟩
    rw [List.append_assoc]
    exact noDigit_blanks_append hw₄ (by decide)
  have hblank : isBlank d = false := isBlank_eq_false_of_isDigit hd
  have hmark : ∀ c, isDigit c = false → d ≠ c := by
    rintro c hc rfl
    rw [hd] at hc
    exact absurd hc (by decide)
  have hr : readOptional readQuoted (w₄ ++ ',' :: w₅ ++ d :: r)
      = (none, w₄ ++ ',' :: w₅ ++ d :: r) :=
    readOptional_missing hw₄ hw₅ hblank (hmark _ (by decide))
  have he : readOptional readBraced (w₄ ++ ',' :: w₅ ++ d :: r)
      = (none, w₄ ++ ',' :: w₅ ++ d :: r) :=
    readOptional_missing hw₄ hw₅ hblank (hmark _ (by decide))
  have htail : readRuleTail (w₄ ++ ',' :: w₅ ++ d :: r) = none := by
    -- No field takes the comma away, so it stands where the brace should be.
    have hskip : Text.skipBlanks (w₄ ++ ',' :: w₅ ++ d :: r) = ',' :: w₅ ++ d :: r := by
      rw [List.append_assoc]
      exact Text.skipBlanks_append hw₄ (by rw [List.cons_append, Text.flush_cons]; decide)
    simp only [readRuleTail, hr, he, hskip]
    rfl
  rw [Option.eq_none_iff_forall_ne_some]
  intro p hp
  obtain ⟨t, hf, ht⟩ := RuleParts.read?_eq_some_iff_front.1 hp
  rw [hfront, Option.some.injEq, Prod.mk.injEq, Prod.mk.injEq] at hf
  rw [← hf.2.2, htail] at ht
  simp at ht

/-- **A header record is no rule record**, and no prefix that keeps all but its
last two characters begins with one. The second numeral is among the characters
kept, for the comma and the opening mark stand behind it. -/
theorem HeaderRecord.read?_take_eq_none {p : HeaderParts} {line : Text} (h : HeaderRecord p line)
    {k : Nat} (hk : k ≤ 2) : RuleParts.read? (line.take (line.length - k)) = none := by
  obtain @⟨w₁, w₂, w₃, w₄, w₅, w₆, w₇, final, hw₁, hw₂, hw₃, hw₄, hw₅, -, -, -, hq, hn, hflag,
    hcond, -⟩ := h
  obtain ⟨o, r, hor, -, -⟩ := hcond
  obtain ⟨d, ds, hd⟩ := List.exists_cons_of_ne_nil hflag.1
  have hdig : isDigit d = true := hflag.2 d (hd ▸ List.mem_cons_self)
  -- The line up to the first digit of the flag, and what follows that digit.
  let front := '{' :: w₁ ++ '"' :: p.name ++ '"' :: w₂ ++ ',' :: w₃ ++ p.minWord ++
    (w₄ ++ ',' :: w₅ ++ [d])
  let back := ds ++ w₆ ++ ',' :: w₇ ++ o :: r ++ final
  have hline : '{' :: w₁ ++ '"' :: p.name ++ '"' :: w₂ ++ ',' :: w₃ ++ p.minWord ++
      w₄ ++ ',' :: w₅ ++ p.flag ++ w₆ ++ ',' :: w₇ ++ p.conditions ++ final = front ++ back := by
    simp [front, back, hd, hor]
  have hback : 2 ≤ back.length := by
    simp only [back, List.length_append, List.length_cons]
    omega
  have hlen : (front ++ back).length - k = front.length + (back.length - k) := by
    rw [List.length_append]
    omega
  rw [hline, hlen, List.take_length_add_append]
  have h := RuleParts.read?_eq_none_of_numeral (r := back.take (back.length - k))
    hw₁ hw₂ hw₃ hw₄ hw₅ hq hn hdig
  simpa [front] using h

/-- No header looks like a rule, whether or not it ends like the last one of a
stage. -/
theorem HeaderRecord.looksLikeRule_eq_false {p : HeaderParts} {line : Text}
    (h : HeaderRecord p line) : looksLikeRule line = false := by
  rw [looksLikeRule]
  split
  · have hcut : RuleParts.read? (withoutTerminator line) = none :=
      h.read?_take_eq_none (Nat.le_refl 2)
    rw [hcut]
    rfl
  · have hline := h.read?_take_eq_none (Nat.zero_le 2)
    rw [Nat.sub_zero, List.take_length] at hline
    rw [hline]
    rfl

end Desinence
