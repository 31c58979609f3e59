/-
Spellings of records.

A spelling of a record is all that stands in its line, part by part: the fields, the
blanks between them, and what follows the closing brace. The text of a spelling is a
record, and the text of any record is that of a spelling (`ruleRecord_iff`,
`headerRecord_iff`).

There is only one spelling for a line. The fields are the same in any two, since
reading finds them and reading has one outcome. And where the fields are the same,
so are the blanks: each run of them ends in front of a character that is no blank,
so two runs in front of the same text end in the same place.
-/
import Desinence.Proofs.Record.Items
import Desinence.Proofs.Record.Value

set_option autoImplicit false

namespace Desinence

namespace Record

/-! ## Commas and optional fields -/

/-- Two ways to put blanks in front of a text that begins with none are the same. -/
theorem blanks_append_inj {w w' t t' : Text} (hw : Blanks w) (hw' : Blanks w') (ht : t.Flush)
    (ht' : t'.Flush) (h : w ++ t = w' ++ t') : w = w' ∧ t = t' := by
  have hrest : t = t' := by
    rw [← Text.skipBlanks_append hw ht, h, Text.skipBlanks_append hw' ht']
  subst hrest
  exact ⟨List.append_cancel_right h, rfl⟩

/-- **A comma in a line**, with what stands on its two sides. -/
structure Comma where
  before : Text
  after : Text

namespace Comma

def text (c : Comma) : Text :=
  c.before ++ ',' :: c.after

/-- Only blanks stand on the two sides. -/
structure Fits (c : Comma) : Prop where
  before : Blanks c.before
  after : Blanks c.after

theorem append_inj {c c' : Comma} {t t' : Text} (hc : c.Fits) (hc' : c'.Fits) (ht : t.Flush)
    (ht' : t'.Flush) (h : c.text ++ t = c'.text ++ t') : c = c' ∧ t = t' := by
  obtain ⟨w, v⟩ := c
  obtain ⟨w', v'⟩ := c'
  have hcomma : ∀ u : Text, Text.Flush (',' :: u) := fun u => Text.flush_cons.2 (by decide)
  simp only [text, List.append_assoc, List.cons_append] at h
  obtain ⟨rfl, hrest⟩ := blanks_append_inj hc.before hc'.before (hcomma _) (hcomma _) h
  obtain ⟨rfl, rfl⟩ := blanks_append_inj hc.after hc'.after ht ht' (List.cons.inj hrest).2
  exact ⟨rfl, rfl⟩

end Comma

/-- **An optional field in a line**: its comma, and what stands between its marks. -/
structure Clause where
  comma : Comma
  body : Text

namespace Clause

/-- The text of an optional field between two marks; empty if the field is missing. -/
def text (opening closing : Char) : Option Clause → Text
  | none => []
  | some f => f.comma.text ++ opening :: f.body ++ [closing]

/-- Blanks around the comma, and no closing mark in the body. -/
structure Fits (closing : Char) (f : Clause) : Prop where
  comma : f.comma.Fits
  body : closing ∉ f.body

variable {opening closing : Char}

theorem optionalField_iff {body : Option Text} {s : Text} :
    OptionalField opening closing body s ↔
      ∃ f : Option Clause, (∀ c ∈ f, c.Fits closing) ∧ body = f.map Clause.body ∧
        s = text opening closing f := by
  constructor
  · intro h
    cases h with
    | missing => exact ⟨none, by simp, rfl, rfl⟩
    | @present w v b hw hv hb =>
      refine ⟨some ⟨⟨w, v⟩, b⟩, ?_, rfl, rfl⟩
      intro c hc
      rw [← Option.mem_some_iff.1 hc]
      exact ⟨⟨hw, hv⟩, hb⟩
  · rintro ⟨f, hf, rfl, rfl⟩
    cases f with
    | none => exact .missing
    | some f => exact .present (hf f rfl).comma.before (hf f rfl).comma.after (hf f rfl).body

/-- Optional fields with the same body, or none, in front of something are the same. -/
theorem append_inj {f f' : Option Clause} {t t' : Text} (hopening : isBlank opening = false)
    (hf : ∀ c ∈ f, c.Fits closing) (hf' : ∀ c ∈ f', c.Fits closing)
    (hbody : f.map Clause.body = f'.map Clause.body)
    (h : text opening closing f ++ t = text opening closing f' ++ t') : f = f' ∧ t = t' := by
  cases f with
  | none =>
    obtain rfl : f' = none := Option.map_eq_none_iff.1 hbody.symm
    exact ⟨rfl, h⟩
  | some f =>
    obtain ⟨f', rfl, hsame⟩ := Option.map_eq_some_iff.1 hbody.symm
    obtain ⟨c, b⟩ := f
    obtain ⟨c', b'⟩ := f'
    obtain rfl : b' = b := hsame
    have hmark : ∀ u : Text, Text.Flush (opening :: u) := fun u => Text.flush_cons.2 hopening
    simp only [text, List.append_assoc, List.cons_append] at h
    obtain ⟨rfl, hrest⟩ :=
      Comma.append_inj (hf _ rfl).comma (hf' _ rfl).comma (hmark _) (hmark _) h
    have htail := List.append_cancel_left (List.cons.inj hrest).2
    exact ⟨rfl, (List.cons.inj htail).2⟩

end Clause

end Record

open Record

/-! ## Rules -/

/-- **A spelling of a rule record**, from the opening brace to the end of the line. -/
@[ext]
structure RuleSpelling where
  afterBrace : Text
  suffix : Text
  comma : Comma
  numeral : Text
  replacement : Option Clause
  exceptions : Option Clause
  beforeBrace : Text
  rest : Text

namespace RuleSpelling

def text (s : RuleSpelling) : Text :=
  '{' :: s.afterBrace ++ quotedField s.suffix ++ s.comma.text ++ s.numeral ++
    Clause.text '"' '"' s.replacement ++ Clause.text '{' '}' s.exceptions ++
    s.beforeBrace ++ '}' :: s.rest

/-- What the grammar asks of the parts; there is nothing it asks of the rest. -/
structure Fits (s : RuleSpelling) : Prop where
  afterBrace : Blanks s.afterBrace
  suffix : '"' ∉ s.suffix
  comma : s.comma.Fits
  numeral : s.numeral.IsNumeral
  replacement : ∀ c ∈ s.replacement, c.Fits '"'
  exceptions : ∀ c ∈ s.exceptions, c.Fits '}'
  beforeBrace : Blanks s.beforeBrace

/-- The parts without the blanks. -/
def parts (s : RuleSpelling) : RuleParts :=
  ⟨s.suffix, s.numeral, s.replacement.map Clause.body, s.exceptions.map Clause.body⟩

end RuleSpelling

/-- **Rule records are the texts of spellings.** -/
theorem ruleRecord_iff {p : RuleParts} {line : Text} :
    RuleRecord p line ↔ ∃ s : RuleSpelling, s.Fits ∧ line = s.text ∧ p = s.parts := by
  constructor
  · rintro @⟨w₁, w₂, w₃, w₄, r, e, rest, hw₁, hw₂, hw₃, hw₄, hs, hn, hr, he⟩
    obtain ⟨replacement, hfr, hbr, rfl⟩ := Clause.optionalField_iff.1 hr
    obtain ⟨exceptions, hfe, hbe, rfl⟩ := Clause.optionalField_iff.1 he
    refine ⟨⟨w₁, p.suffix, ⟨w₂, w₃⟩, p.numeral, replacement, exceptions, w₄, rest⟩,
      ⟨hw₁, hs, ⟨hw₂, hw₃⟩, hn, hfr, hfe, hw₄⟩, ?_, ?_⟩
    · simp [RuleSpelling.text, quotedField, Comma.text]
    · rw [RuleSpelling.parts, ← hbr, ← hbe]
  · rintro ⟨s, hs, rfl, rfl⟩
    have hr : OptionalField '"' '"' s.parts.replacement (Clause.text '"' '"' s.replacement) :=
      Clause.optionalField_iff.2 ⟨s.replacement, hs.replacement, rfl, rfl⟩
    have he : OptionalField '{' '}' s.parts.exceptions (Clause.text '{' '}' s.exceptions) :=
      Clause.optionalField_iff.2 ⟨s.exceptions, hs.exceptions, rfl, rfl⟩
    have h := RuleRecord.spelled (p := s.parts) (t := s.rest) hs.afterBrace hs.comma.before
      hs.comma.after hs.beforeBrace hs.suffix hs.numeral hr he
    simpa [RuleSpelling.text, RuleSpelling.parts, quotedField, Comma.text] using h

/-- A numeral begins with no blank, whatever stands behind it. -/
theorem Text.IsNumeral.flush_append {numeral : Text} (h : numeral.IsNumeral) (t : Text) :
    Text.Flush (numeral ++ t) := by
  obtain ⟨d, ds, hd⟩ := List.exists_cons_of_ne_nil h.1
  rw [hd, List.cons_append, Text.flush_cons]
  exact isBlank_eq_false_of_isDigit (h.2 d (hd ▸ List.mem_cons_self))

theorem flush_quotedField_append (field t : Text) : Text.Flush (quotedField field ++ t) :=
  Text.flush_cons.2 (by decide)

/-- **A rule record has one spelling.** From the brace on, each part is the same and
leaves the same text behind it. -/
theorem RuleSpelling.eq_of_text_eq {s s' : RuleSpelling} (hs : s.Fits) (hs' : s'.Fits)
    (h : s.text = s'.text) : s = s' := by
  have hread : RuleParts.read? s.text = some s.parts :=
    RuleParts.read?_eq_some_iff.2 (ruleRecord_iff.2 ⟨s, hs, rfl, rfl⟩)
  have hread' : RuleParts.read? s.text = some s'.parts :=
    RuleParts.read?_eq_some_iff.2 (ruleRecord_iff.2 ⟨s', hs', h, rfl⟩)
  have hparts : s.parts = s'.parts := Option.some.inj (hread.symm.trans hread')
  simp only [parts, RuleParts.mk.injEq] at hparts
  obtain ⟨hsuffix, hnumeral, hreplacement, hexceptions⟩ := hparts
  simp only [text, hsuffix, hnumeral, List.append_assoc, List.cons_append, List.cons.injEq,
    true_and] at h
  obtain ⟨hafter, h⟩ := blanks_append_inj hs.afterBrace hs'.afterBrace
    (flush_quotedField_append _ _) (flush_quotedField_append _ _) h
  obtain ⟨hcomma, h⟩ := Comma.append_inj hs.comma hs'.comma (hs'.numeral.flush_append _)
    (hs'.numeral.flush_append _) (List.append_cancel_left h)
  obtain ⟨hreplacement, h⟩ := Clause.append_inj (by decide) hs.replacement hs'.replacement
    hreplacement (List.append_cancel_left h)
  obtain ⟨hexceptions, h⟩ := Clause.append_inj (by decide) hs.exceptions hs'.exceptions
    hexceptions h
  have hbrace : ∀ u : Text, Text.Flush ('}' :: u) := fun u => Text.flush_cons.2 (by decide)
  obtain ⟨hbefore, h⟩ := blanks_append_inj hs.beforeBrace hs'.beforeBrace (hbrace _) (hbrace _) h
  exact RuleSpelling.ext hafter hsuffix hcomma hnumeral hreplacement hexceptions hbefore
    (List.cons.inj h).2

/-! ## Headers -/

/-- **A spelling of a header record**: the whole line, with the line feed at its end if
there is one. -/
@[ext]
structure HeaderSpelling where
  afterBrace : Text
  name : Text
  nameComma : Comma
  minWord : Text
  minWordComma : Comma
  flag : Text
  flagComma : Comma
  opener : Char
  tail : Text
  fed : Bool

namespace HeaderSpelling

def text (s : HeaderSpelling) : Text :=
  '{' :: s.afterBrace ++ quotedField s.name ++ s.nameComma.text ++ s.minWord ++
    s.minWordComma.text ++ s.flag ++ s.flagComma.text ++ s.opener :: s.tail ++
    if s.fed then ['\n'] else []

/-- What the grammar asks of the parts. -/
structure Fits (s : HeaderSpelling) : Prop where
  afterBrace : Blanks s.afterBrace
  name : '"' ∉ s.name
  name_ne_nil : s.name ≠ []
  nameComma : s.nameComma.Fits
  minWord : s.minWord.IsNumeral
  minWordComma : s.minWordComma.Fits
  flag : s.flag.IsNumeral
  flagComma : s.flagComma.Fits
  opener : s.opener = '{' ∨ s.opener = '['
  tail : '\n' ∉ s.tail

/-- The parts without the blanks. -/
def parts (s : HeaderSpelling) : HeaderParts :=
  ⟨s.name, s.minWord, s.flag, s.opener :: s.tail⟩

end HeaderSpelling

/-- **Header records are the texts of spellings.** -/
theorem headerRecord_iff {p : HeaderParts} {line : Text} :
    HeaderRecord p line ↔ ∃ s : HeaderSpelling, s.Fits ∧ line = s.text ∧ p = s.parts := by
  constructor
  · rintro @⟨w₁, w₂, w₃, w₄, w₅, w₆, w₇, final, hw₁, hw₂, hw₃, hw₄, hw₅, hw₆, hw₇, hne, hq, hn,
      hflag, ⟨opener, tail, hcond, hopener, htail⟩, hfinal⟩
    obtain ⟨fed, rfl⟩ : ∃ fed : Bool, final = if fed then ['\n'] else [] := by
      rcases hfinal with rfl | rfl
      · exact ⟨false, rfl⟩
      · exact ⟨true, rfl⟩
    refine ⟨⟨w₁, p.name, ⟨w₂, w₃⟩, p.minWord, ⟨w₄, w₅⟩, p.flag, ⟨w₆, w₇⟩, opener, tail, fed⟩,
      ⟨hw₁, hq, hne, ⟨hw₂, hw₃⟩, hn, ⟨hw₄, hw₅⟩, hflag, ⟨hw₆, hw₇⟩, hopener, htail⟩, ?_, ?_⟩
    · simp [HeaderSpelling.text, quotedField, Comma.text, hcond]
    · rw [HeaderSpelling.parts, ← hcond]
  · rintro ⟨s, hs, rfl, rfl⟩
    have hcond : IsConditions s.parts.conditions := ⟨s.opener, s.tail, rfl, hs.opener, hs.tail⟩
    have hfinal : (if s.fed then ['\n'] else []) = ([] : Text) ∨
        (if s.fed then ['\n'] else []) = ['\n'] := by
      cases s.fed
      · exact .inl rfl
      · exact .inr rfl
    have h := HeaderRecord.spelled (p := s.parts) hs.afterBrace hs.nameComma.before
      hs.nameComma.after hs.minWordComma.before hs.minWordComma.after hs.flagComma.before
      hs.flagComma.after hs.name_ne_nil hs.name hs.minWord hs.flag hcond hfinal
    simpa [HeaderSpelling.text, HeaderSpelling.parts, quotedField, Comma.text] using h

/-- **A header record has one spelling.** -/
theorem HeaderSpelling.eq_of_text_eq {s s' : HeaderSpelling} (hs : s.Fits) (hs' : s'.Fits)
    (h : s.text = s'.text) : s = s' := by
  have hread : HeaderParts.read? s.text = some s.parts :=
    HeaderParts.read?_eq_some_iff.2 (headerRecord_iff.2 ⟨s, hs, rfl, rfl⟩)
  have hread' : HeaderParts.read? s.text = some s'.parts :=
    HeaderParts.read?_eq_some_iff.2 (headerRecord_iff.2 ⟨s', hs', h, rfl⟩)
  have hparts : s.parts = s'.parts := Option.some.inj (hread.symm.trans hread')
  simp only [parts, HeaderParts.mk.injEq, List.cons.injEq] at hparts
  obtain ⟨hname, hminWord, hflag, hopener, htail⟩ := hparts
  simp only [text, hname, hminWord, hflag, hopener, htail, List.append_assoc, List.cons_append,
    List.cons.injEq, true_and] at h
  obtain ⟨hafter, h⟩ := blanks_append_inj hs.afterBrace hs'.afterBrace
    (flush_quotedField_append _ _) (flush_quotedField_append _ _) h
  obtain ⟨hnameComma, h⟩ := Comma.append_inj hs.nameComma hs'.nameComma
    (hs'.minWord.flush_append _) (hs'.minWord.flush_append _) (List.append_cancel_left h)
  obtain ⟨hminWordComma, h⟩ := Comma.append_inj hs.minWordComma hs'.minWordComma
    (hs'.flag.flush_append _) (hs'.flag.flush_append _) (List.append_cancel_left h)
  have hflush : ∀ u : Text, Text.Flush (s'.opener :: u) := by
    intro u
    rw [Text.flush_cons]
    rcases hs'.opener with ho | ho <;> rw [ho] <;> decide
  obtain ⟨hflagComma, h⟩ := Comma.append_inj hs.flagComma hs'.flagComma (hflush _) (hflush _)
    (List.append_cancel_left h)
  -- All but the line feed is taken off, and it is there in both or in neither.
  have hfeed := List.append_cancel_left (List.cons.inj h).2
  have hfed : s.fed = s'.fed := by
    cases hf : s.fed <;> cases hf' : s'.fed <;> simp_all
  exact HeaderSpelling.ext hafter hname hnameComma hminWord hminWordComma hflag hflagComma hopener
    htail hfed

/-! ## Records -/

/-- **Records and their spellings.** Of a line without long numerals, a rule is read
exactly if the line is the text of a spelling of a rule record. There is only one such
spelling, and the rule has its suffix, the number of its numeral, its replacement, if
there is one, and for exceptions what a scan for quoted items takes from between the
braces, if they are there. And so it is with a header, where the flag is on exactly if
it is spelled `1`. -/
theorem spelling_of_records {line : Text} (hshort : line.ShortNumerals) :
    ((∃ r, readRule line = .ok r) ↔ ∃ s : RuleSpelling, s.Fits ∧ line = s.text) ∧
    (∀ s s' : RuleSpelling, s.Fits → s'.Fits → line = s.text → line = s'.text → s = s') ∧
    (∀ s : RuleSpelling, s.Fits → line = s.text →
      ∃ items, QuotedScan ((s.exceptions.map Clause.body).getD []) items ∧
        readRule line = .ok ⟨s.suffix, s.numeral.decimalValue,
          (s.replacement.map Clause.body).getD [], kept items⟩) ∧
    ((∃ h, readHeader line = .ok h) ↔ ∃ s : HeaderSpelling, s.Fits ∧ line = s.text) ∧
    (∀ s s' : HeaderSpelling, s.Fits → s'.Fits → line = s.text → line = s'.text → s = s') ∧
    (∀ s : HeaderSpelling, s.Fits → line = s.text →
      ∃ items, QuotedScan (s.opener :: s.tail) items ∧
        readHeader line = .ok ⟨s.name, s.minWord.decimalValue, s.flag == ['1'], kept items⟩) := by
  have hrule : ∀ s : RuleSpelling, s.Fits → line = s.text → readRule line = .ok s.parts.value := by
    intro s hs hline
    have hrecord : RuleRecord s.parts line := ruleRecord_iff.2 ⟨s, hs, hline, rfl⟩
    exact readRule_eq_ok_iff.2 ⟨s.parts, hrecord, hrecord.length_numeral_le hshort, rfl⟩
  have hheader : ∀ s : HeaderSpelling, s.Fits → line = s.text →
      readHeader line = .ok s.parts.value := by
    intro s hs hline
    have hrecord : HeaderRecord s.parts line := headerRecord_iff.2 ⟨s, hs, hline, rfl⟩
    exact readHeader_eq_ok_iff.2 ⟨s.parts, hrecord, hrecord.length_minWord_le hshort, rfl⟩
  refine ⟨⟨?_, ?_⟩, ?_, ?_, ⟨?_, ?_⟩, ?_, ?_⟩
  · rintro ⟨r, hr⟩
    obtain ⟨p, hp, -, -⟩ := readRule_eq_ok_iff.1 hr
    obtain ⟨s, hs, hline, -⟩ := ruleRecord_iff.1 hp
    exact ⟨s, hs, hline⟩
  · rintro ⟨s, hs, hline⟩
    exact ⟨_, hrule s hs hline⟩
  · intro s s' hs hs' hline hline'
    exact RuleSpelling.eq_of_text_eq hs hs' (hline.symm.trans hline')
  · intro s hs hline
    exact ⟨_, quotedScan_iff.2 rfl, hrule s hs hline⟩
  · rintro ⟨h, hh⟩
    obtain ⟨p, hp, -, -⟩ := readHeader_eq_ok_iff.1 hh
    obtain ⟨s, hs, hline, -⟩ := headerRecord_iff.1 hp
    exact ⟨s, hs, hline⟩
  · rintro ⟨s, hs, hline⟩
    exact ⟨_, hheader s hs hline⟩
  · intro s s' hs hs' hline hline'
    exact HeaderSpelling.eq_of_text_eq hs hs' (hline.symm.trans hline')
  · intro s hs hline
    exact ⟨_, quotedScan_iff.2 rfl, hheader s hs hline⟩

/-- A rule with a brace for its suffix and a line feed behind it, leading zeros, no
replacement, and a list that holds an empty entry; and a header in brackets with a flag
that is no `1`, and a line feed at its end. -/
theorem spelling_of_records_unusual :
    let line : Text := "\x7b\"\x7d\"\n,007, \x7b\" a\",\"\",\",\"\x7d \x7d;".toList
    let s : RuleSpelling := ⟨[], ['}'], ⟨['\n'], []⟩, "007".toList, none,
      some ⟨⟨[], [' ']⟩, "\" a\",\"\",\",\"".toList⟩, [' '], [';']⟩
    let line' : Text := "\x7b\"S\",1 ,01,[\"x\"]\n".toList
    let s' : HeaderSpelling := ⟨[], ['S'], ⟨[], []⟩, ['1'], ⟨[' '], []⟩, "01".toList, ⟨[], []⟩,
      '[', "\"x\"]".toList, true⟩
    (line.ShortNumerals ∧ s.Fits ∧ line = s.text ∧
      readRule line = .ok ⟨['}'], 7, [], [['a'], [',']]⟩ ∧
      ∀ other : RuleSpelling, other.Fits → line = other.text → other = s) ∧
    line'.ShortNumerals ∧ s'.Fits ∧ line' = s'.text ∧
      readHeader line' = .ok ⟨['S'], 1, false, [['x']]⟩ ∧
      ∀ other : HeaderSpelling, other.Fits → line' = other.text → other = s' := by
  intro line s line' s'
  have hblanks : Blanks [' '] ∧ Blanks ['\n'] := by
    simp only [Blanks, List.mem_singleton, forall_eq]
    decide
  have hshort : line.ShortNumerals := fun run hrun _ => Nat.le_trans hrun.length_le (by decide)
  have hshort' : line'.ShortNumerals := fun run hrun _ => Nat.le_trans hrun.length_le (by decide)
  have hs : s.Fits := by
    refine ⟨blanks_nil, by decide, ⟨hblanks.2, blanks_nil⟩, by decide, by simp [s],
      ?_, hblanks.1⟩
    intro c hc
    rw [← Option.mem_some_iff.1 hc]
    exact ⟨⟨blanks_nil, hblanks.1⟩, by decide⟩
  have hs' : s'.Fits :=
    ⟨blanks_nil, by decide, by decide, ⟨blanks_nil, blanks_nil⟩, by decide,
      ⟨hblanks.1, blanks_nil⟩, by decide, ⟨blanks_nil, blanks_nil⟩, .inr rfl,
      by decide⟩
  obtain ⟨-, hunique, hread, -⟩ := spelling_of_records hshort
  obtain ⟨-, -, -, -, hunique', hread'⟩ := spelling_of_records hshort'
  obtain ⟨items, hscan, hrule⟩ := hread s hs rfl
  obtain ⟨items', hscan', hheader⟩ := hread' s' hs' rfl
  obtain rfl := quotedScan_iff.1 hscan
  obtain rfl := quotedScan_iff.1 hscan'
  exact ⟨⟨hshort, hs, rfl, hrule.trans (by decide +kernel),
      fun other h heq => hunique other s h hs heq rfl⟩,
    hshort', hs', rfl, hheader.trans (by decide +kernel),
    fun other h heq => hunique' other s' h hs' heq rfl⟩

end Desinence
