/-
The outcomes of reading a text.

A text describes a table, or it does not and there is an error of format that has its
place: the line at fault with its number, or the stage that is still open at the end.
One thing comes in between. Where the line is the record that should stand there, and
only the numeral that gives its length has more digits than a numeral may have, reading
stops at that numeral with a fault that names neither the line nor its number.

`Overflows` says when this happens, first of one line and then of a whole text, in terms
of the record alone. All other outcomes are as they should be, so a text has one of
these exactly if it does not overflow, and no text without long numerals does.
-/
import Desinence.Proofs.Assembly.FirstFault

set_option autoImplicit false

namespace Desinence

/-! ## Lines that overflow -/

/-- **A line that overflows where reading stands**: it is the record that belongs there,
a header between stages and a rule inside one, but its length is spelled with so many
digits, and they are too many. -/
def Assembly.Overflows : Assembly → Text → Nat → Prop
  | .between, line, digits =>
    ∃ p, HeaderRecord p line ∧ p.minWord.length = digits ∧ numeralLimit < digits
  | .inside _ _, line, digits =>
    ∃ p, RuleRecord p (ruleText line) ∧ p.numeral.length = digits ∧ numeralLimit < digits

/-- **A step stops at a long numeral** exactly if the line overflows. -/
theorem Assembly.step_eq_longNumeral_iff {a : Assembly} {line : Text} {digits : Nat} :
    a.step line = .error (.longNumeral digits) ↔ a.Overflows line digits := by
  cases a with
  | between =>
    constructor
    · intro h
      rcases step_between_eq_error h with ⟨-, hf⟩ | ⟨-, hr⟩
      · simp at hf
      · rcases readHeader_eq_error hr with ⟨-, hf⟩ | ⟨p, hp, hlt, hf⟩
        · simp at hf
        · obtain rfl := RecordFault.longNumeral.inj hf
          exact ⟨p, hp, rfl, hlt⟩
    · rintro ⟨p, hp, rfl, hlt⟩
      -- A header does not look like a rule, so it is read as a header.
      have hread : readHeader line = .error (.longNumeral p.minWord.length) := by
        rw [readHeader_eq, HeaderParts.read?_eq_some_iff.2 hp]
        exact boundedValue_of_lt hlt
      rw [step, hp.looksLikeRule_eq_false, hread]
      rfl
  | inside h rules =>
    constructor
    · intro hs
      rcases readRule_eq_error (step_inside_eq_error hs) with ⟨-, hf⟩ | ⟨p, hp, hlt, hf⟩
      · simp at hf
      · obtain rfl := RecordFault.longNumeral.inj hf
        exact ⟨p, hp, rfl, hlt⟩
    · rintro ⟨p, hp, rfl, hlt⟩
      have hread : readRule (ruleText line) = .error (.longNumeral p.numeral.length) := by
        rw [readRule_eq, RuleParts.read?_eq_some_iff.2 hp]
        exact boundedValue_of_lt hlt
      rw [step_inside, hread]
      rfl

theorem RuleRecord.head?_eq {p : RuleParts} {line : Text} (h : RuleRecord p line) :
    line.head? = some '{' := by
  cases h
  rfl

theorem HeaderRecord.head?_eq {p : HeaderParts} {line : Text} (h : HeaderRecord p line) :
    line.head? = some '{' := by
  cases h
  rfl

/-- A line that overflows is not passed over in silence, for it begins with a brace. -/
theorem Assembly.Overflows.isSilent_eq_false {a : Assembly} {line : Text} {digits : Nat}
    (h : a.Overflows line digits) : isSilent line = false := by
  have hhead : line.head? = some '{' := by
    cases a with
    | between =>
      obtain ⟨p, hp, -⟩ := h
      exact hp.head?_eq
    | inside _ _ =>
      obtain ⟨p, hp, -⟩ := h
      obtain ⟨rest, hrest⟩ := ruleText_isPrefix line
      rw [← hrest, List.head?_append, hp.head?_eq, Option.some_or]
  cases line with
  | nil => simp at hhead
  | cons c r =>
    obtain rfl : c = '{' := Option.some.inj hhead
    rfl

/-- The digits that are too many stand in the line. -/
theorem Assembly.Overflows.not_shortNumerals {a : Assembly} {line : Text} {digits : Nat}
    (h : a.Overflows line digits) : ¬line.ShortNumerals := by
  intro hshort
  cases a with
  | between =>
    obtain ⟨p, hp, rfl, hlt⟩ := h
    exact absurd (hp.length_minWord_le hshort) (Nat.not_le.2 hlt)
  | inside _ _ =>
    obtain ⟨p, hp, rfl, hlt⟩ := h
    have htext := hshort.of_isInfix (ruleText_isPrefix line).isInfix
    exact absurd (hp.length_numeral_le htext) (Nat.not_le.2 hlt)

/-! ## Texts that overflow -/

/-- **A text that overflows**: the lines in front have no fault, and the next one
overflows where they leave off. -/
def Text.Overflows (source : Text) (digits : Nat) : Prop :=
  ∃ front line back a, source.lines = front ++ line :: back ∧ StandsAt front a ∧
    a.Overflows line.strip digits

/-- No text without long numerals overflows. -/
theorem Text.Overflows.not_shortNumerals {source : Text} {digits : Nat}
    (h : source.Overflows digits) : ¬source.ShortNumerals := by
  obtain ⟨front, line, back, a, hlines, -, hline⟩ := h
  intro hshort
  have hmem : line ∈ source.lines := by
    rw [hlines]
    exact List.mem_append_right _ List.mem_cons_self
  have hinfix : line.strip <:+: source :=
    (Text.strip_isInfix line).trans (Text.isInfix_of_mem_lines hmem)
  exact hline.not_shortNumerals (hshort.of_isInfix hinfix)

namespace Table

/-- **Parsing stops at a long numeral** exactly if the text overflows. -/
theorem parse_eq_longNumeral_iff {source : Text} {digits : Nat} :
    parse source = .error (.longNumeral digits) ↔ source.Overflows digits := by
  constructor
  · intro h
    rcases parse_eq_error_iff.1 h with
      ⟨hd, rules, t, -, hf⟩ | ⟨front, line, back, a, t, f, hlines, hrun, -, hstep, hf⟩
    · simp at hf
    · cases f with
      | format reason text => simp [RecordFault.inLine] at hf
      | longNumeral d =>
        obtain rfl := TableFault.longNumeral.inj hf
        exact ⟨front, line, back, a, hlines, ⟨t, hrun⟩, Assembly.step_eq_longNumeral_iff.1 hstep⟩
  · rintro ⟨front, line, back, a, hlines, ⟨t, hrun⟩, hline⟩
    exact parse_of_fault hlines hrun hline.isSilent_eq_false
      (Assembly.step_eq_longNumeral_iff.2 hline)

end Table

/-! ## Outcomes -/

/-- **An error that has its place in a text**: it gives the first line at fault, whole
and with its number, or it names the stage that is open at the end, and gives no line. -/
def FormatError.PlacedIn (e : FormatError) (source : Text) : Prop :=
  (∃ front line back a text, source.lines = front ++ line :: back ∧ StandsAt front a ∧
    a.step line.strip = .error (.format e.reason text) ∧
    e.line = some line ∧ e.number = some (front.length + 1)) ∨
  ∃ h rules, StandsAt source.lines (.inside h rules) ∧ e = ⟨.unterminatedStage h.name, none, none⟩

namespace Table

/-- **A text that is judged**: it describes a table, or there is an error of format that
has its place. -/
def Judged (source : Text) : Prop :=
  (∃ t, parse source = .ok t) ∨ ∃ e, parse source = .error (.format e) ∧ e.PlacedIn source

/-- Every error of format has its place. -/
theorem placedIn_of_parse {source : Text} {e : FormatError}
    (h : parse source = .error (.format e)) : e.PlacedIn source := by
  cases hn : e.number with
  | none => exact .inr (parse_eq_error_unnumbered_iff.1 ⟨h, hn⟩)
  | some n =>
    obtain ⟨front, line, back, a, text, hlines, rfl, hstands, -, hstep, hline⟩ :=
      exists_fault_of_number h hn
    exact .inl ⟨front, line, back, a, text, hlines, hstands, hstep, hline, hn⟩

/-- **A text is judged** unless parsing stops at a long numeral. -/
theorem judged_iff {source : Text} :
    Judged source ↔ ∀ digits, parse source ≠ .error (.longNumeral digits) := by
  constructor
  · rintro (⟨t, ht⟩ | ⟨e, he, -⟩) digits hd
    · simp [ht] at hd
    · simp [he] at hd
  · intro h
    rcases hp : parse source with (e | digits) | t
    · exact .inr ⟨e, hp, placedIn_of_parse hp⟩
    · exact absurd hp (h digits)
    · exact .inl ⟨t, hp⟩

/-- **The outcomes of parsing.** A text is judged exactly if it does not overflow. If it
does, parsing stops at the numeral that is too long, and it does so for no other text.
A text without long numerals is always judged. -/
theorem outcome_of_parse (source : Text) :
    (Judged source ↔ ∀ digits, ¬source.Overflows digits) ∧
    (∀ digits, parse source = .error (.longNumeral digits) ↔ source.Overflows digits) ∧
    (source.ShortNumerals → Judged source) := by
  have hjudged : Judged source ↔ ∀ digits, ¬source.Overflows digits := by
    simp only [judged_iff, ne_eq, parse_eq_longNumeral_iff]
  refine ⟨hjudged, fun _ => parse_eq_longNumeral_iff, fun hshort => ?_⟩
  exact hjudged.2 fun _ hover => hover.not_shortNumerals hshort

/-- A rule that is not closed, on the second line. -/
theorem outcome_of_parse_second_line :
    let source : Text := "\x7b \"A\", 1, 0, \x7b\x7d,\n\x7b\"s\",2".toList
    source.ShortNumerals ∧ Judged source ∧
      parse source = .error (.format ⟨.badRule, some "\x7b\"s\",2".toList, some 2⟩) := by
  intro source
  have hshort : source.ShortNumerals :=
    fun run hrun _ => Nat.le_trans hrun.length_le (by decide)
  exact ⟨hshort, (outcome_of_parse source).2.2 hshort, by rfl⟩

/-! ## A text that is not judged -/

/-- A header whose first length is spelled with so many zeros. -/
def zerosHeader (digits : Nat) : Text :=
  ['{', ' ', '"', 'A', '"', ',', ' '] ++ List.replicate digits '0' ++
    [',', ' ', '0', ',', ' ', '{', '}', ',']

theorem headerRecord_zerosHeader {digits : Nat} (h : digits ≠ 0) :
    HeaderRecord ⟨['A'], List.replicate digits '0', ['0'], ['{', '}', ',']⟩
      (zerosHeader digits) := by
  have hspace : Blanks [' '] := by simp [Blanks, isBlank]
  have hzeros : Text.IsNumeral (List.replicate digits '0') := by
    refine ⟨fun hnil => h (List.replicate_eq_nil_iff _ |>.1 hnil), fun c hc => ?_⟩
    rw [List.eq_of_mem_replicate hc]
    rfl
  have hzero : Text.IsNumeral ['0'] := by decide
  have hconditions : IsConditions ['{', '}', ','] := ⟨_, _, rfl, .inl rfl, by decide⟩
  have hquote : '"' ∉ ['A'] := by decide
  have hrecord := HeaderRecord.spelled
    (p := ⟨['A'], List.replicate digits '0', ['0'], ['{', '}', ',']⟩) hspace blanks_nil hspace
    blanks_nil hspace blanks_nil hspace (List.cons_ne_nil _ _) hquote hzeros hzero
    hconditions (.inl rfl)
  simpa [zerosHeader] using hrecord

theorem oneLine_zerosHeader (digits : Nat) : (zerosHeader digits).OneLine := by
  have hfront : Text.OneLine ['{', ' ', '"', 'A', '"', ',', ' '] := by decide
  have hback : Text.OneLine [',', ' ', '0', ',', ' ', '{', '}', ','] := by decide
  have hzeros : Text.OneLine (List.replicate digits '0') := by
    intro c hc
    rw [List.eq_of_mem_replicate hc]
    rfl
  rw [zerosHeader, Text.oneLine_append, Text.oneLine_append]
  exact ⟨⟨hfront, hzeros⟩, hback⟩

/-- A table file with such a header overflows once the zeros are too many. -/
theorem overflows_zerosHeader {digits : Nat} (h : numeralLimit < digits) {rest : List Text}
    (hrest : ∀ line ∈ rest, line.OneLine) :
    (Text.ofLines (zerosHeader digits :: rest)).Overflows digits := by
  have hlines : (Text.ofLines (zerosHeader digits :: rest)).lines = zerosHeader digits :: rest := by
    refine Text.lines_ofLines fun line hline => ?_
    rcases List.mem_cons.1 hline with rfl | hline
    · exact oneLine_zerosHeader digits
    · exact hrest line hline
  have hlast : (zerosHeader digits).getLast? = some ',' := by
    rw [zerosHeader, List.getLast?_append]
    rfl
  have hstrip : (zerosHeader digits).strip = zerosHeader digits :=
    Text.strip_eq_self_of_ends (a := '{') rfl hlast rfl rfl
  have hrecord := headerRecord_zerosHeader (Nat.ne_zero_of_lt h)
  rw [← hstrip] at hrecord
  exact ⟨[], zerosHeader digits, rest, .between, hlines, ⟨[], rfl⟩,
    _, hrecord, List.length_replicate, h⟩

/-- **Not every text is judged**: a header that is as it should be, only that its length
is spelled with 4301 zeros, stops parsing at these. -/
theorem not_judged_long_length :
    let source := Text.ofLines [zerosHeader 4301, ['{', '"', 's', '"', ',', '2', '}', '}', ';']]
    parse source = .error (.longNumeral 4301) ∧ ¬∀ source, Judged source := by
  intro source
  have hover : source.Overflows 4301 := overflows_zerosHeader (by decide) (by decide)
  have hparse := parse_eq_longNumeral_iff.2 hover
  exact ⟨hparse, fun hall => judged_iff.1 (hall source) 4301 hparse⟩

end Table

end Desinence
