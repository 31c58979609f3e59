/-
Written tables read back, and what a table must be like to be one that is read.

`Table.WellFormed` is the condition, on the strings and numbers of the table
alone. It is necessary: a string of a table that was read comes out of quote
marks on one line, an item of a list has been stripped, an exception stood in
braces, and a number was a numeral within the limit. It is also enough: of a
well-formed table every written line is a record in the grammar, and the record
means the rule or header it was written from.
-/
import Desinence.Layout
import Desinence.Proofs.Assembly.Block
import Desinence.Proofs.Record.Items
import Desinence.Proofs.Text.Pieces

set_option autoImplicit false

namespace Desinence

open Record

/-! ## Well-formed tables -/

/-- A text that can stand between quote marks on a line. -/
def Text.Plain (t : Text) : Prop :=
  '"' ∉ t ∧ t.OneLine

/-- An item of a quoted list: plain, not empty, and without a blank at either
end. -/
def Text.IsItem (t : Text) : Prop :=
  t.Plain ∧ t ≠ [] ∧ t.strip = t

/-- An item is found again between its quote marks. -/
theorem Text.IsItem.quotable {t : Text} (h : t.IsItem) : t ≠ [] ∧ t.strip = t ∧ '"' ∉ t :=
  ⟨h.2.1, h.2.2, h.1.1⟩

/-- **A rule that can be written and read.** -/
structure Rule.WellFormed (r : Rule) : Prop where
  suffix : r.suffix.Plain
  minStem : r.minStem < 10 ^ numeralLimit
  replacement : r.replacement.Plain
  exceptions : ∀ e ∈ r.exceptions, e.IsItem ∧ '}' ∉ e

/-- **A stage that can be written and read.** -/
structure Stage.WellFormed (s : Stage) : Prop where
  name : s.name.Plain
  name_ne_nil : s.name ≠ []
  minWord : s.minWord < 10 ^ numeralLimit
  conditions : ∀ c ∈ s.conditions, c.IsItem
  rules : ∀ r ∈ s.rules, r.WellFormed
  rules_ne_nil : s.rules ≠ []

/-- **A well-formed table.** -/
def Table.WellFormed (t : Table) : Prop :=
  ∀ s ∈ t, s.WellFormed

/-! ## Tables that were read -/

/-- A numeral within the limit spells a number below its bound. -/
theorem decimalValue_lt_limit {t : Text} (h : t.IsNumeral) (hl : t.length ≤ numeralLimit) :
    t.decimalValue < 10 ^ numeralLimit :=
  Nat.lt_of_lt_of_le (Text.decimalValue_lt h.2) (Nat.pow_le_pow_right (by omega) hl)

/-- The items of a list on one line. -/
theorem isItem_of_mem_quotedItems {t e : Text} (ht : t.OneLine) (h : e ∈ quotedItems t) :
    e.IsItem := by
  obtain ⟨hne, hs, hq, hc⟩ := quotedItems_sound h
  exact ⟨⟨hq, fun c hce => ht c (hc c hce)⟩, hne, hs⟩

theorem RuleRecord.wellFormed_value {p : RuleParts} {line : Text} (h : RuleRecord p line)
    (ho : line.OneLine) (hl : p.numeral.length ≤ numeralLimit) : p.value.WellFormed := by
  obtain @⟨w₁, w₂, w₃, w₄, r, e, rest, hw₁, hw₂, hw₃, hw₄, hs, hn, hr, he⟩ := h
  obtain ⟨hrq, hrc⟩ := hr.getD_body
  obtain ⟨heq, hec⟩ := he.getD_body
  -- Every string is made of characters of the line, which has no boundary.
  refine ⟨⟨hs, fun c hc => ho c ?_⟩, decimalValue_lt_limit hn hl, ⟨hrq, fun c hc => ho c ?_⟩,
    fun x hx => ⟨isItem_of_mem_quotedItems (fun c hc => ho c ?_) hx, fun hm => ?_⟩⟩
  · have hc' : c ∈ p.suffix := hc
    simp [hc']
  · have hc' := hrc c hc
    simp [hc']
  · have hc' := hec c hc
    simp [hc']
  · exact heq ((quotedItems_sound hx).2.2.2 _ hm)

/-- **A rule that was read** from one line is well-formed. -/
theorem wellFormed_of_readRule {line : Text} {r : Rule} (h : readRule line = .ok r)
    (ho : line.OneLine) : r.WellFormed := by
  obtain ⟨p, hp, hl, rfl⟩ := readRule_eq_ok_iff.1 h
  exact hp.wellFormed_value ho hl

/-- A header that was read from one line, with well-formed rules. -/
theorem wellFormed_of_readHeader {line : Text} {h : Header} {rules : List Rule}
    (hr : readHeader line = .ok h) (ho : line.OneLine) (hrules : ∀ r ∈ rules, r.WellFormed)
    (hne : rules ≠ []) : (h.stage rules).WellFormed := by
  obtain ⟨p, hp, hl, rfl⟩ := readHeader_eq_ok_iff.1 hr
  obtain @⟨w₁, w₂, w₃, w₄, w₅, w₆, w₇, final, -, -, -, -, -, -, -, hname, hq, hn, -, hcond, -⟩ := hp
  refine ⟨⟨hq, fun c hc => ho c ?_⟩, hname, decimalValue_lt_limit hn hl, ?_, hrules, hne⟩
  · have hc' : c ∈ p.name := hc
    simp [hc']
  · intro x hx
    exact isItem_of_mem_quotedItems (fun c hc => ho c (by simp [hc])) hx

theorem Block.Reads.wellFormed {b : Block} {s : Stage} (h : b.Reads s)
    (ho : ∀ l ∈ b.lines, l.OneLine) : s.WellFormed := by
  have hrules : ∀ r ∈ s.rules, r.WellFormed := by
    intro r hr
    obtain ⟨l, hl, hread⟩ := exists_of_mem_of_forall₂ h.rules.flip hr
    apply wellFormed_of_readRule hread
    exact (ho l (List.mem_cons_of_mem _ hl)).of_isInfix (ruleText_isPrefix l).isInfix
  have hne : s.rules ≠ [] := by
    -- There is a last line, and so a rule for it.
    intro hnil
    have hlen := h.rules.length_eq
    rw [hnil, ruleLines, List.length_append] at hlen
    simp at hlen
  obtain ⟨hd, hread, hs⟩ := h.header
  rw [hs]
  exact wellFormed_of_readHeader hread (ho b.headerLine List.mem_cons_self) hrules hne

/-- **A table that was read** is well-formed. -/
theorem Table.wellFormed_of_parse {source : Text} {t : Table}
    (h : Table.parse source = .ok t) : t.WellFormed := by
  obtain ⟨bs, hbs, hls⟩ := Assembly.run_eq_some_iff_blocks.1 (Table.parse_eq_ok_iff.1 h)
  intro s hs
  obtain ⟨b, hb, hread⟩ := exists_of_mem_of_forall₂ hbs.flip hs
  apply hread.wellFormed
  intro l hl
  have hmem : l ∈ significant source.lines := by
    rw [hls]
    exact List.mem_flatMap.2 ⟨b, hb, hl⟩
  obtain ⟨m, hm, rfl, -⟩ := mem_significant hmem
  exact (Text.oneLine_of_mem_lines hm).of_isInfix (Text.strip_isInfix m)

/-! ## Written records -/

/-- The parts of a rule's record. -/
def Rule.parts (r : Rule) : RuleParts :=
  ⟨r.suffix, Text.ofNat r.minStem, some r.replacement,
    some (Text.joinWith [','] (r.exceptions.map quotedField))⟩

/-- The parts of a stage's header line. -/
def Stage.headerParts (s : Stage) : HeaderParts :=
  ⟨s.name, Text.ofNat s.minWord, if s.wholeWord then ['1'] else ['0'],
    bracedList s.conditions ++ [',']⟩

/-- The characters of a written list, its braces apart. -/
theorem mem_joinWith_quotedField {es : List Text} {c : Char}
    (h : c ∈ Text.joinWith [','] (es.map quotedField)) :
    c = ',' ∨ c = '"' ∨ ∃ e ∈ es, c ∈ e := by
  rcases Text.mem_joinWith h with h | ⟨t, ht, hc⟩
  · exact .inl (List.mem_singleton.1 h)
  · obtain ⟨e, he, rfl⟩ := List.mem_map.1 ht
    simp only [quotedField, List.mem_append, List.mem_cons, List.not_mem_nil, or_false] at hc
    rcases hc with (rfl | hc) | rfl
    · exact .inr (.inl rfl)
    · exact .inr (.inr ⟨e, he, hc⟩)
    · exact .inr (.inl rfl)

/-- A written list is one line if its items are. -/
theorem oneLine_joinWith {es : List Text} (h : ∀ e ∈ es, e.OneLine) :
    Text.OneLine (Text.joinWith [','] (es.map quotedField)) := by
  intro c hc
  rcases mem_joinWith_quotedField hc with rfl | rfl | ⟨e, he, hce⟩
  · decide
  · decide
  · exact h e he c hce

/-- Marks around a single line. -/
theorem oneLine_between {t : Text} (h : t.OneLine) {a b : Char} (ha : isLineEnd a = false)
    (hb : isLineEnd b = false) : Text.OneLine (a :: t ++ [b]) := by
  rw [List.cons_append, Text.oneLine_cons, Text.oneLine_append, Text.oneLine_cons]
  exact ⟨ha, h, hb, Text.oneLine_nil⟩

theorem oneLine_quotedField {t : Text} (h : t.OneLine) : (quotedField t).OneLine :=
  oneLine_between h (by decide) (by decide)

theorem oneLine_bracedList {es : List Text} (h : ∀ e ∈ es, e.OneLine) :
    (bracedList es).OneLine :=
  oneLine_between (oneLine_joinWith h) (by decide) (by decide)

theorem oneLine_comma : Text.OneLine [','] := by
  rw [Text.oneLine_cons]
  exact ⟨by decide, Text.oneLine_nil⟩

theorem oneLine_terminator : terminator.OneLine := by
  rw [terminator, Text.oneLine_cons, Text.oneLine_cons]
  exact ⟨by decide, by decide, Text.oneLine_nil⟩

theorem Rule.WellFormed.oneLine_record {r : Rule} (h : r.WellFormed) : r.record.OneLine := by
  have hs := oneLine_quotedField h.suffix.2
  have hr := oneLine_quotedField h.replacement.2
  have hx := oneLine_bracedList fun e he => (h.exceptions e he).1.1.2
  simp only [Rule.record, List.cons_append, Text.oneLine_cons, Text.oneLine_append,
    Text.oneLine_nil, hs, hr, hx, Text.oneLine_ofNat, and_true]
  decide

theorem Stage.WellFormed.oneLine_headerLine {s : Stage} (h : s.WellFormed) :
    s.headerLine.OneLine := by
  have hn := oneLine_quotedField h.name.2
  have hx := oneLine_bracedList fun c hc => (h.conditions c hc).1.2
  have hspace : Text.OneLine ", ".toList := by
    intro c hc
    rcases List.mem_cons.1 hc with rfl | hc
    · decide
    · rw [List.mem_singleton.1 hc]
      decide
  have hflag : Text.OneLine (if s.wholeWord then ['1'] else ['0']) := by
    intro c hc
    split at hc <;> rw [List.mem_singleton.1 hc] <;> decide
  simp only [Stage.headerLine, List.cons_append, Text.oneLine_cons, Text.oneLine_append,
    Text.oneLine_nil, hn, hx, hspace, hflag, Text.oneLine_ofNat, and_true]
  decide

/-- A written rule is a rule record, whatever stands behind it, if the marks that end
its parts are not in them. -/
theorem Rule.ruleRecord_parts {r : Rule} (hs : '"' ∉ r.suffix) (hr : '"' ∉ r.replacement)
    (he : ∀ e ∈ r.exceptions, '}' ∉ e) (rest : Text) :
    RuleRecord r.parts (r.record ++ rest) := by
  have hx : '}' ∉ Text.joinWith [','] (r.exceptions.map quotedField) := by
    intro hm
    rcases mem_joinWith_quotedField hm with hc | hc | ⟨e, hmem, hc⟩
    · exact absurd hc (by decide)
    · exact absurd hc (by decide)
    · exact he e hmem hc
  have h := RuleRecord.spelled (p := r.parts) (t := rest) blanks_nil blanks_nil blanks_nil
    blanks_nil hs (Text.isNumeral_ofNat r.minStem)
    (.present blanks_nil blanks_nil hr) (.present blanks_nil blanks_nil hx)
  simpa [Rule.record, Rule.parts, quotedField, bracedList] using h

/-- A written header line is a header record, if it is one line and its name ends
where it should. -/
theorem Stage.headerRecord_parts {s : Stage} (hne : s.name ≠ []) (hq : '"' ∉ s.name)
    (ho : ∀ c ∈ s.conditions, c.OneLine) : HeaderRecord s.headerParts s.headerLine := by
  have hspace : Blanks [' '] := by
    intro c hc
    rw [List.mem_singleton.1 hc]
    decide
  have hflag : s.headerParts.flag.IsNumeral := by
    rw [Stage.headerParts]
    refine ⟨?_, fun c hc => ?_⟩
    · split <;> simp
    · dsimp only at hc
      split at hc <;> rw [List.mem_singleton.1 hc] <;> decide
  have hcond : IsConditions s.headerParts.conditions := by
    refine ⟨'{', Text.joinWith [','] (s.conditions.map quotedField) ++ ['}'] ++ [','], rfl,
      .inl rfl, fun hm => ?_⟩
    have hl : Text.OneLine (bracedList s.conditions ++ [',']) :=
      Text.oneLine_append.2 ⟨oneLine_bracedList ho, oneLine_comma⟩
    exact absurd (hl _ (List.mem_cons_of_mem _ hm)) (by decide)
  have hs := HeaderRecord.spelled (p := s.headerParts) hspace blanks_nil hspace blanks_nil hspace
    blanks_nil hspace hne hq (Text.isNumeral_ofNat s.minWord) hflag hcond (.inl rfl)
  simpa [Stage.headerLine, Stage.headerParts, quotedField, bracedList] using hs

/-- The parts of a written rule mean that rule. -/
theorem Rule.WellFormed.value_parts {r : Rule} (h : r.WellFormed) : r.parts.value = r := by
  have hitems := quotedItems_joinWith fun e he => (h.exceptions e he).1.quotable
  simp only [Rule.parts, RuleParts.value, Text.decimalValue_ofNat, Option.getD_some, hitems]

/-- A flag is on as it is written. -/
theorem flag_beq_one (b : Bool) : ((if b then ['1'] else ['0']) == ['1']) = b := by
  cases b <;> rfl

/-- The parts of a written header mean that header. -/
theorem Stage.WellFormed.value_headerParts {s : Stage} (h : s.WellFormed) :
    s.headerParts.value = ⟨s.name, s.minWord, s.wholeWord, s.conditions⟩ := by
  have hitems := quotedItems_bracedList (fun c hc => (h.conditions c hc).quotable) (t := [','])
    (by decide)
  simp only [Stage.headerParts, HeaderParts.value, Text.decimalValue_ofNat, hitems, flag_beq_one]

theorem numeralLimit_pos : 0 < numeralLimit := by
  decide

/-- **A written rule reads back.** -/
theorem Rule.WellFormed.readRule_record {r : Rule} (h : r.WellFormed) (rest : Text) :
    readRule (r.record ++ rest) = .ok r :=
  readRule_eq_ok_iff.2
    ⟨r.parts,
      Rule.ruleRecord_parts h.suffix.1 h.replacement.1 (fun e he => (h.exceptions e he).2) rest,
      Text.length_ofNat_le numeralLimit_pos h.minStem, h.value_parts.symm⟩

/-- **A written header reads back.** -/
theorem Stage.WellFormed.readHeader_headerLine {s : Stage} (h : s.WellFormed) :
    readHeader s.headerLine = .ok ⟨s.name, s.minWord, s.wholeWord, s.conditions⟩ :=
  readHeader_eq_ok_iff.2
    ⟨s.headerParts,
      Stage.headerRecord_parts h.name_ne_nil h.name.1 fun c hc => (h.conditions c hc).1.2,
      Text.length_ofNat_le numeralLimit_pos h.minWord, h.value_headerParts.symm⟩

/-! ## Written lines -/

/-- A line from a brace to a comma or semicolon is significant as it stands. -/
theorem strip_and_not_silent {line : Text} {c : Char} (hh : line.head? = some '{')
    (hl : line.getLast? = some c) (hc : isBlank c = false) :
    line.strip = line ∧ isSilent line = false := by
  refine ⟨Text.strip_eq_self_of_ends hh hl (by decide) hc, ?_⟩
  cases line with
  | nil => simp at hh
  | cons d r =>
    rw [List.head?_cons, Option.some.injEq] at hh
    subst hh
    rfl

theorem endsStage_append_terminator (t : Text) : endsStage (t ++ terminator) = true :=
  Text.endsWith_iff.2 (List.suffix_append t terminator)

theorem withoutTerminator_append (t : Text) : withoutTerminator (t ++ terminator) = t := by
  rw [withoutTerminator, List.length_append, Nat.add_sub_cancel, List.take_left']
  rfl

theorem endsStage_append_comma (t : Text) : endsStage (t ++ [',']) = false := by
  by_contra h
  rw [Bool.not_eq_false, endsStage, Text.endsWith_iff] at h
  obtain ⟨u, hu⟩ := h
  have hlast := congrArg List.getLast? hu
  simp [terminator] at hlast

/-- What the lines of a stage have in common: they are single lines, and they
are significant as they stand. -/
def IsWrittenLine (line : Text) : Prop :=
  line.OneLine ∧ line.strip = line ∧ isSilent line = false

theorem Stage.WellFormed.isWrittenLine_headerLine {s : Stage} (h : s.WellFormed) :
    IsWrittenLine s.headerLine := by
  have hlast : s.headerLine.getLast? = some ',' := by
    rw [Stage.headerLine, List.getLast?_concat]
  exact ⟨h.oneLine_headerLine, strip_and_not_silent rfl hlast (by decide)⟩

theorem Rule.WellFormed.isWrittenLine_comma {r : Rule} (h : r.WellFormed) :
    IsWrittenLine (r.record ++ [',']) := by
  refine ⟨Text.oneLine_append.2 ⟨h.oneLine_record, oneLine_comma⟩, ?_⟩
  exact strip_and_not_silent rfl List.getLast?_concat (by decide)

theorem Rule.WellFormed.isWrittenLine_terminator {r : Rule} (h : r.WellFormed) :
    IsWrittenLine (r.record ++ terminator) := by
  refine ⟨Text.oneLine_append.2 ⟨h.oneLine_record, oneLine_terminator⟩, ?_⟩
  have hlast : (r.record ++ terminator).getLast? = some ';' := by
    simp [terminator]
  exact strip_and_not_silent rfl hlast (by decide)

/-- All rule lines of a stage are such lines. -/
theorem isWrittenLine_of_mem_ruleLines {rules : List Rule} (h : ∀ r ∈ rules, r.WellFormed) :
    ∀ l ∈ ruleLines rules, IsWrittenLine l := by
  induction rules using ruleLines.induct with
  | case1 => simp [ruleLines]
  | case2 r =>
    intro l hl
    rw [ruleLines, List.mem_singleton] at hl
    rw [hl]
    exact (h r List.mem_cons_self).isWrittenLine_terminator
  | case3 r s rest ih =>
    intro l hl
    rw [ruleLines] at hl
    rcases List.mem_cons.1 hl with rfl | hl
    · exact (h r List.mem_cons_self).isWrittenLine_comma
    · exact ih (fun x hx => h x (List.mem_cons_of_mem _ hx)) l hl

/-- **The rule lines of a stage** are open lines and a last one, and read back as
the rules. -/
theorem exists_ruleLines_eq {rules : List Rule} (h : ∀ r ∈ rules, r.WellFormed)
    (hne : rules ≠ []) :
    ∃ opens last, ruleLines rules = opens ++ [last] ∧
      (∀ l ∈ opens, endsStage l = false) ∧ endsStage last = true ∧
      List.Forall₂ (fun line r => readRule (ruleText line) = .ok r) (ruleLines rules) rules := by
  induction rules using ruleLines.induct with
  | case1 => exact absurd rfl hne
  | case2 r =>
    have hlast := endsStage_append_terminator r.record
    have hread := (h r List.mem_cons_self).readRule_record []
    rw [List.append_nil] at hread
    refine ⟨[], r.record ++ terminator, rfl, by simp, hlast, .cons ?_ .nil⟩
    rw [ruleText_of_endsStage hlast, withoutTerminator_append]
    exact hread
  | case3 r s rest ih =>
    obtain ⟨opens, last, heq, ho, hl, hrs⟩ :=
      ih (fun x hx => h x (List.mem_cons_of_mem _ hx)) (List.cons_ne_nil s rest)
    have hopen := endsStage_append_comma r.record
    refine ⟨(r.record ++ [',']) :: opens, last, ?_, ?_, hl, .cons ?_ hrs⟩
    · rw [ruleLines, heq]
      rfl
    · intro l hm
      rcases List.mem_cons.1 hm with rfl | hm
      · exact hopen
      · exact ho l hm
    · -- The comma stands behind the record, where anything may stand.
      rw [ruleText_of_not_endsStage hopen]
      exact (h r List.mem_cons_self).readRule_record [',']

/-- **The lines of a stage** are a block that reads as the stage. -/
theorem Stage.WellFormed.exists_reads {s : Stage} (h : s.WellFormed) :
    ∃ b : Block, b.lines = s.lines ∧ b.Reads s := by
  obtain ⟨opens, last, heq, ho, hl, hrs⟩ := exists_ruleLines_eq h.rules h.rules_ne_nil
  refine ⟨⟨s.headerLine, opens, last⟩, ?_, ho, hl, ⟨_, h.readHeader_headerLine, rfl⟩, ?_⟩
  · rw [Block.lines, Block.ruleLines, Stage.lines, heq]
  · rw [Block.ruleLines, ← heq]
    exact hrs

/-! ## Written tables -/

/-- The lines of a table are blocks that read as its stages. -/
theorem Table.WellFormed.exists_reads {t : Table} (h : t.WellFormed) :
    ∃ bs : List Block, List.Forall₂ Block.Reads bs t ∧
      t.flatMap Stage.lines = bs.flatMap Block.lines := by
  induction t with
  | nil => exact ⟨[], .nil, rfl⟩
  | cons s t ih =>
    obtain ⟨b, hb, hread⟩ := Stage.WellFormed.exists_reads (h s List.mem_cons_self)
    obtain ⟨bs, hbs, heq⟩ := ih fun u hu => h u (List.mem_cons_of_mem _ hu)
    refine ⟨b :: bs, .cons hread hbs, ?_⟩
    rw [List.flatMap_cons, List.flatMap_cons, hb, heq]

/-- Every line of a written table is a single line and significant as it
stands. -/
theorem Table.WellFormed.isWrittenLine {t : Table} (h : t.WellFormed) {l : Text}
    (hl : l ∈ t.flatMap Stage.lines) : IsWrittenLine l := by
  obtain ⟨s, hs, hls⟩ := List.mem_flatMap.1 hl
  have hstage : s.WellFormed := h s hs
  rcases List.mem_cons.1 hls with rfl | hrule
  · exact hstage.isWrittenLine_headerLine
  · exact isWrittenLine_of_mem_ruleLines hstage.rules l hrule

/-- **A well-formed table reads back** from its text. -/
theorem Table.WellFormed.parse_write {t : Table} (h : t.WellFormed) :
    Table.parse t.write = .ok t := by
  obtain ⟨bs, hbs, heq⟩ := h.exists_reads
  have hlines : t.write.lines = t.flatMap Stage.lines :=
    Text.lines_ofLines fun l hl => (h.isWrittenLine hl).1
  have hsig : significant t.write.lines = t.flatMap Stage.lines := by
    rw [hlines]
    exact significant_eq_self fun l hl => (h.isWrittenLine hl).2
  rw [Table.parse_eq_ok_iff, hsig, heq]
  exact Assembly.run_eq_some_iff_blocks.2 ⟨bs, hbs, rfl⟩

/-- **The tables of table files.** Well-formed is what a table must be to be the
reading of any text, and enough for it to be the reading of the text it is
written as. So writing what was read and reading it again changes nothing. -/
theorem Table.wellFormed_iff_parse (t : Table) :
    (t.WellFormed ↔ Table.parse t.write = .ok t) ∧
    (t.WellFormed ↔ ∃ source, Table.parse source = .ok t) ∧
    ∀ source, Table.parse source = .ok t → Table.parse t.write = .ok t := by
  refine ⟨⟨fun h => h.parse_write, fun h => Table.wellFormed_of_parse h⟩, ⟨?_, ?_⟩, ?_⟩
  · intro h
    exact ⟨t.write, h.parse_write⟩
  · rintro ⟨source, h⟩
    exact Table.wellFormed_of_parse h
  · intro source h
    exact (Table.wellFormed_of_parse h).parse_write

/-- The notation, on one stage of two rules. -/
example :
    Table.write [⟨['A'], 1, true, [['a'], ['b']], [⟨['s'], 2, [], [['e']]⟩, ⟨[], 0, ['r'], []⟩]⟩]
      = ("\x7b \"A\", 1, 1, \x7b\"a\",\"b\"\x7d,\n\x7b\"s\",2,\"\",\x7b\"e\"\x7d\x7d,\n" ++
        "\x7b\"\",0,\"r\",\x7b\x7d\x7d\x7d;\n").toList := by
  rfl

/-- Braces and the terminator between quote marks, brackets that are not closed,
leading zeros, blanks in odd places and an open quote mark at the end. -/
theorem Table.wellFormed_iff_parse_braces :
    let source : Text :=
      ("\x7b\t\"S\x7d#\" ,007,1 , [\" a \",\"\n\x7b\"x\x7b\",0 ,\"\x7d;\"\x7d \"\n" ++
        "\x7b\"\",3,\x7b\"e,\"\x7d\x7d\x7d;").toList
    let table : Table :=
      [⟨['S', '}', '#'], 7, true, [['a']],
        [⟨['x', '{'], 0, ['}', ';'], []⟩, ⟨[], 3, [], [['e', ',']]⟩]⟩]
    Table.parse source = .ok table ∧ table.WellFormed ∧ Table.parse table.write = .ok table := by
  intro source table
  have ht : Table.parse source = .ok table := by rfl
  have hw : table.WellFormed := (Table.wellFormed_iff_parse table).2.1.2 ⟨source, ht⟩
  exact ⟨ht, hw, (Table.wellFormed_iff_parse table).2.2 source ht⟩

end Desinence
