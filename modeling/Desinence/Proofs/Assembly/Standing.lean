/-
A line tells where reading stands.

No header record is a rule record, not even with a terminator taken off
(`HeaderRecord.looksLikeRule_eq_false`). So a line that is accepted at all is
accepted on one side only: between stages if it does not look like a rule, inside
a stage if it does, and with the terminator this also settles on which side
reading goes on (`isInside_of_step`).

The guard between stages, which turns away whatever looks like a rule, is then no
condition for acceptance. `stepUnguarded` is the step without it. It refuses the
same lines, and differs in calling a rule without a stage a bad header; this is
an equation between faults (`stepUnguarded_eq`), which reading carries from one
line to a whole text by induction on the lines.
-/
import Desinence.Proofs.Assembly.Run
import Desinence.Proofs.Assembly.Step

set_option autoImplicit false

namespace Desinence

/-! ## Sides -/

namespace Assembly

/-- **An accepted line fixes the side** on which reading stood in front of it,
and the one on which it goes on. -/
theorem isInside_of_step {a b : Assembly} {line : Text} {completed : Option Stage}
    (h : a.step line = .ok (b, completed)) :
    a.isInside = looksLikeRule line ∧ b.isInside = !(looksLikeRule line && endsStage line) := by
  cases a with
  | between =>
    obtain ⟨hd, hread, rfl, -⟩ := step_between_eq_ok_iff.1 h
    obtain ⟨p, hp, -, -⟩ := readHeader_eq_ok_iff.1 hread
    rw [hp.looksLikeRule_eq_false]
    exact ⟨rfl, rfl⟩
  | inside hd rules =>
    obtain ⟨r, hread, hside⟩ := step_inside_eq_ok_iff.1 h
    obtain ⟨p, hp, -, -⟩ := readRule_eq_ok_iff.1 hread
    have hlooks : looksLikeRule line = true := looksLikeRule_iff.2 ⟨p, hp⟩
    rw [hlooks]
    rcases hside with ⟨he, rfl, -⟩ | ⟨he, rfl, -⟩
    · rw [he]
      exact ⟨rfl, rfl⟩
    · rw [he]
      exact ⟨rfl, rfl⟩

/-- Between stages and inside a stage, no line is accepted in both places. -/
theorem not_accepts_both (line : Text) (h : Header) (rules : List Rule) :
    ¬ (between.accepts line = true ∧ (inside h rules).accepts line = true) := by
  rintro ⟨hb, hi⟩
  obtain ⟨b, x, hb⟩ := accepts_iff.1 hb
  obtain ⟨c, y, hi⟩ := accepts_iff.1 hi
  have hfalse := (isInside_of_step hb).1
  rw [← (isInside_of_step hi).1] at hfalse
  exact Bool.false_ne_true hfalse

/-- **Runs over the same lines stand side by side**, wherever they set out. -/
theorem isInside_of_run {a b a' b' : Assembly} {ls : List Text} {t t' : Table} (hne : ls ≠ [])
    (h : a.run ls = some (b, t)) (h' : a'.run ls = some (b', t')) :
    a.isInside = a'.isInside ∧ b.isInside = b'.isInside := by
  induction ls generalizing a a' t t' with
  | nil => exact absurd rfl hne
  | cons l ls ih =>
    obtain ⟨c, completed, u, hs, hr, -⟩ := run_cons_eq_some_iff.1 h
    obtain ⟨c', completed', u', hs', hr', -⟩ := run_cons_eq_some_iff.1 h'
    obtain ⟨ha, hc⟩ := isInside_of_step hs
    obtain ⟨ha', hc'⟩ := isInside_of_step hs'
    refine ⟨ha.trans ha'.symm, ?_⟩
    cases ls with
    | nil =>
      rw [run_nil, Option.some.injEq, Prod.mk.injEq] at hr hr'
      rw [← hr.1, ← hr'.1, hc, hc']
    | cons m ls => exact (ih (List.cons_ne_nil m ls) hr hr').2

end Assembly

/-! ## Header lines -/

/-- A header record holds no rule record, as it is or without a terminator. -/
theorem HeaderRecord.read?_eq_none {p : HeaderParts} {line : Text} (h : HeaderRecord p line) :
    RuleParts.read? line = none ∧ RuleParts.read? (ruleText line) = none := by
  have hline : RuleParts.read? line = none := by
    have h0 := h.read?_take_eq_none (Nat.zero_le 2)
    rwa [Nat.sub_zero, List.take_length] at h0
  refine ⟨hline, ?_⟩
  -- Looking like a rule is holding a rule record in the rule text.
  rw [← Option.not_isSome_iff_eq_none]
  intro hsome
  have hlooks : looksLikeRule line = true := hsome
  rw [h.looksLikeRule_eq_false] at hlooks
  exact Bool.false_ne_true hlooks

namespace Assembly

/-- **A header line passes the guard**: between stages it does what reading the
header does. -/
theorem step_between_of_headerRecord {p : HeaderParts} {line : Text} (h : HeaderRecord p line) :
    between.step line = (readHeader line).map fun hd => (inside hd [], none) := by
  rw [step, h.looksLikeRule_eq_false]
  rfl

/-- **Inside a stage a header line is a bad rule.** -/
theorem step_inside_of_headerRecord {p : HeaderParts} {line : Text} (h : HeaderRecord p line)
    (hd : Header) (rules : List Rule) :
    (inside hd rules).step line = .error (.format .badRule (ruleText line)) := by
  rw [step_inside, readRule, h.read?_eq_none.2]
  rfl

end Assembly

/-! ## The step without the guard -/

/-- The step that takes every line between stages for a header. -/
def Assembly.stepUnguarded : Assembly → Text → Except RecordFault (Assembly × Option Stage)
  | between, line => (fun h => (inside h [], none)) <$> readHeader line
  | inside h rules, line => (inside h rules).step line

/-- A reason, where a rule without a stage is no more than a bad header. -/
def FormatReason.asBadHeader : FormatReason → FormatReason
  | .ownerlessRule => .badHeader
  | reason => reason

/-- The same for the fault of a record. -/
def RecordFault.asBadHeader : RecordFault → RecordFault
  | .format reason text => .format reason.asBadHeader text
  | .longNumeral digits => .longNumeral digits

/-- The same for the fault of a file. -/
def TableFault.asBadHeader : TableFault → TableFault
  | .format e => .format { e with reason := e.reason.asBadHeader }
  | .longNumeral digits => .longNumeral digits

/-- A fault of a reader of records is none of a rule without a stage. -/
theorem boundedValue_mapError {P α : Type} {numeral : P → Text} {value : P → α}
    {reason : FormatReason} {text : Text} (hr : reason.asBadHeader = reason) (parts : Option P) :
    (boundedValue numeral value (.format reason text) parts).mapError RecordFault.asBadHeader
      = boundedValue numeral value (.format reason text) parts := by
  cases parts with
  | none => simp only [boundedValue, mapError_error, RecordFault.asBadHeader, hr]
  | some p =>
    rw [boundedValue, lengthOf]
    split <;> rfl

theorem readHeader_mapError (line : Text) :
    (readHeader line).mapError RecordFault.asBadHeader = readHeader line := by
  rw [readHeader_eq]
  exact boundedValue_mapError rfl _

theorem readRule_mapError (line : Text) :
    (readRule line).mapError RecordFault.asBadHeader = readRule line := by
  rw [readRule_eq]
  exact boundedValue_mapError rfl _

namespace Assembly

/-- **What the guard does**: without it a step has the same outcome, save for the
name of one fault. -/
theorem stepUnguarded_eq (a : Assembly) (line : Text) :
    a.stepUnguarded line = (a.step line).mapError RecordFault.asBadHeader := by
  cases a with
  | between =>
    rw [stepUnguarded, step]
    by_cases hl : looksLikeRule line = true
    · -- A line that looks like a rule is no header, so reading it as one fails.
      have hnone : HeaderParts.read? line = none := by
        rw [HeaderParts.read?_eq_none_iff]
        intro p hp
        rw [hp.looksLikeRule_eq_false] at hl
        exact Bool.false_ne_true hl
      rw [if_pos hl, readHeader, hnone]
      rfl
    · have hmap : ((fun h => (inside h [], none)) <$> readHeader line :
          Except RecordFault (Assembly × Option Stage)).mapError RecordFault.asBadHeader
            = (fun h => (inside h [], none)) <$> (readHeader line).mapError RecordFault.asBadHeader :=
        mapError_map _ _ _
      rw [if_neg hl, hmap, readHeader_mapError]
  | inside h rules =>
    rw [stepUnguarded, step_inside, mapError_map, readRule_mapError]

end Assembly

/-! ## Reading with another step -/

/-- **Reads lines by a step** that need not be the assembly's own. -/
def readLinesBy (step : Assembly → Text → Except RecordFault (Assembly × Option Stage)) :
    Assembly → Nat → List Text → Reading
  | a, _, [] => ⟨[], a.atEnd⟩
  | a, number, line :: rest =>
    if isSilent line.strip then readLinesBy step a (number + 1) rest
    else match step a line.strip with
      | .error fault => ⟨[], some (fault.inLine line number)⟩
      | .ok (next, completed) => (readLinesBy step next (number + 1) rest).push completed

/-- By its own step the assembly reads as it does. -/
theorem readLinesBy_step (a : Assembly) (n : Nat) (ls : List Text) :
    readLinesBy Assembly.step a n ls = readLines a n ls := by
  induction ls generalizing a n with
  | nil => rw [readLinesBy, readLines_nil]
  | cons l ls ih =>
    rw [readLinesBy, readLines_cons, ih]
    split
    · rfl
    · cases a.step l.strip with
      | error f => rfl
      | ok x =>
        simp only [ih]

/-- **Steps that differ in their faults** make readings that differ in theirs. -/
theorem readLinesBy_mapError
    {step step' : Assembly → Text → Except RecordFault (Assembly × Option Stage)}
    {g : RecordFault → RecordFault} {g' : TableFault → TableFault}
    (hs : ∀ a line, step' a line = (step a line).mapError g)
    (hg : ∀ f line n, (g f).inLine line n = g' (f.inLine line n))
    (hend : ∀ a : Assembly, a.atEnd.map g' = a.atEnd) (a : Assembly) (n : Nat)
    (ls : List Text) : readLinesBy step' a n ls = (readLinesBy step a n ls).mapFault g' := by
  induction ls generalizing a n with
  | nil => rw [readLinesBy, readLinesBy, Reading.mapFault, hend]
  | cons l ls ih =>
    rw [readLinesBy, readLinesBy, hs]
    cases isSilent l.strip with
    | true => exact ih a (n + 1)
    | false =>
      cases step a l.strip with
      | error f =>
        simp only [mapError_error, Bool.false_eq_true, if_false, hg]
        rfl
      | ok x =>
        simp only [mapError_ok, Bool.false_eq_true, if_false, ih, Reading.mapFault_push]

namespace Table

/-- Reads the text of a table file without the guard. -/
def readingUnguarded (source : Text) : Reading :=
  readLinesBy Assembly.stepUnguarded .between 1 source.lines

/-- The table that a text describes without the guard. -/
def parseUnguarded (source : Text) : Except TableFault Table :=
  (readingUnguarded source).table

/-- **Without the guard** the same stages are completed, and a fault is the same
but for its reason. -/
theorem readingUnguarded_eq (source : Text) :
    readingUnguarded source = (reading source).mapFault TableFault.asBadHeader := by
  have hin : ∀ (f : RecordFault) (line : Text) (n : Nat),
      f.asBadHeader.inLine line n = (f.inLine line n).asBadHeader := by
    intro f line n
    cases f <;> rfl
  have hend : ∀ a : Assembly, a.atEnd.map TableFault.asBadHeader = a.atEnd := by
    intro a
    cases a <;> rfl
  rw [readingUnguarded, readLinesBy_mapError Assembly.stepUnguarded_eq hin hend, readLinesBy_step,
    reading]

/-- A text describes a table without the guard just if it does with it. -/
theorem parseUnguarded_eq_ok_iff {source : Text} {t : Table} :
    parseUnguarded source = .ok t ↔ parse source = .ok t := by
  rw [parseUnguarded, readingUnguarded_eq, Reading.table_mapFault, ← parse_eq_table]
  cases parse source <;> simp

end Table

/-- **Lines tell the standing.** No line is accepted both between stages and
inside one; an accepted line shows where reading stood and where it goes on, so
two runs over the same lines stand on the same side at both ends. A header record
does not look like a rule and holds no rule record, with its terminator or without,
so between stages the guard lets it through and inside a stage it is turned away.
Dropping the guard therefore changes nothing in reading a text but the reason of a
fault, and the texts that describe a table are the same. -/
theorem Assembly.line_fixes_standing :
    (∀ (line : Text) (h : Header) (rules : List Rule),
      ¬ (between.accepts line = true ∧ (inside h rules).accepts line = true)) ∧
    (∀ (a b : Assembly) (line : Text) (completed : Option Stage),
      a.step line = .ok (b, completed) →
        a.isInside = looksLikeRule line ∧
          b.isInside = !(looksLikeRule line && endsStage line)) ∧
    (∀ (a b a' b' : Assembly) (ls : List Text) (t t' : Table), ls ≠ [] →
      a.run ls = some (b, t) → a'.run ls = some (b', t') →
        a.isInside = a'.isInside ∧ b.isInside = b'.isInside) ∧
    (∀ (line : Text) (p : HeaderParts), HeaderParts.read? line = some p →
      looksLikeRule line = false ∧ RuleParts.read? line = none ∧
        RuleParts.read? (ruleText line) = none ∧
        between.step line = ((readHeader line).map fun h => (inside h [], none)) ∧
        ∀ (h : Header) (rules : List Rule),
          (inside h rules).step line = .error (.format .badRule (ruleText line))) ∧
    (∀ source : Text,
      Table.readingUnguarded source = (Table.reading source).mapFault TableFault.asBadHeader) ∧
    ∀ (source : Text) (t : Table),
      Table.parseUnguarded source = .ok t ↔ Table.parse source = .ok t := by
  refine ⟨not_accepts_both, fun a b line completed hs => isInside_of_step hs,
    fun a b a' b' ls t t' hne h h' => isInside_of_run hne h h', ?_,
    Table.readingUnguarded_eq, fun source t => Table.parseUnguarded_eq_ok_iff⟩
  intro line p hp
  have hrec : HeaderRecord p line := HeaderParts.read?_eq_some_iff.1 hp
  obtain ⟨hline, hcut⟩ := hrec.read?_eq_none
  exact ⟨hrec.looksLikeRule_eq_false, hline, hcut, step_between_of_headerRecord hrec,
    step_inside_of_headerRecord hrec⟩

/-- A header that ends like the last rule of a stage, a last rule that completes
two stages alike, and the same rule without a stage. -/
theorem Assembly.line_fixes_standing_terminated :
    let header : Text := "\x7b\"S\",0,0,\x7b\"a\"\x7d\x7d;".toList
    let rule : Text := "\x7b\"s\",1\x7d\x7d;".toList
    let a : Assembly := inside ⟨['S'], 0, false, [['a']]⟩ []
    let b : Assembly := inside ⟨['T'], 2, true, []⟩ [⟨[], 3, [], []⟩]
    HeaderParts.read? header = some ⟨['S'], ['0'], ['0'], "\x7b\"a\"\x7d\x7d;".toList⟩ ∧
      endsStage header = true ∧ looksLikeRule header = false ∧
      RuleParts.read? (ruleText header) = none ∧
      a.step rule = .ok (between, some ⟨['S'], 0, false, [['a']], [⟨['s'], 1, [], []⟩]⟩) ∧
      looksLikeRule rule = true ∧
      (a.run [rule]).isSome = true ∧ (b.run [rule]).isSome = true ∧ a.isInside = b.isInside ∧
      Table.parse rule = .error (.format ⟨.ownerlessRule, some rule, some 1⟩) ∧
      (Table.readingUnguarded rule).fault = some (.format ⟨.badHeader, some rule, some 1⟩) := by
  intro header rule a b
  have hread : HeaderParts.read? header
      = some ⟨['S'], ['0'], ['0'], "\x7b\"a\"\x7d\x7d;".toList⟩ := by rfl
  have hstep : a.step rule
      = .ok (between, some ⟨['S'], 0, false, [['a']], [⟨['s'], 1, [], []⟩]⟩) := by rfl
  have ha : a.run [rule]
      = some (between, [⟨['S'], 0, false, [['a']], [⟨['s'], 1, [], []⟩]⟩]) := by rfl
  have hb : b.run [rule]
      = some (between, [⟨['T'], 2, true, [], [⟨[], 3, [], []⟩, ⟨['s'], 1, [], []⟩]⟩]) := by rfl
  obtain ⟨-, hside, hruns, hheader, hfault, -⟩ := line_fixes_standing
  obtain ⟨hlooks, -, hcut, -, -⟩ := hheader header _ hread
  refine ⟨hread, by rfl, hlooks, hcut, hstep, (hside _ _ _ _ hstep).1.symm, by rw [ha]; rfl,
    by rw [hb]; rfl, (hruns _ _ _ _ _ _ _ (List.cons_ne_nil _ _) ha hb).1, by rfl, ?_⟩
  rw [hfault rule]
  rfl

end Desinence
