/-
The first fault of a text, and why no later one could be reported.

Where reading stands after some lines depends on these lines alone
(`StandsAt`). If they have no fault, they can be completed: between stages they
are a file as they are, inside a stage one closing rule makes them one. So the
line that a format error names is the first that rules out every completion, and
any text that begins with the same lines fails in the same way. The reason is
fixed by where the lines in front of it stand and by what the line looks like.
-/
import Desinence.Proofs.Assembly.Block

set_option autoImplicit false

namespace Desinence

/-- **Where reading stands** after lines without a fault. -/
def StandsAt (ls : List Text) (a : Assembly) : Prop :=
  ∃ t, Assembly.between.run (significant ls) = some (a, t)

/-- Reading stands in one place only. -/
theorem StandsAt.unique {ls : List Text} {a b : Assembly} (ha : StandsAt ls a)
    (hb : StandsAt ls b) : a = b := by
  obtain ⟨t, ht⟩ := ha
  obtain ⟨u, hu⟩ := hb
  rw [ht, Option.some.injEq, Prod.mk.injEq] at hu
  exact hu.1

/-! ## Completion -/

/-- A line that completes any stage: the last rule, with nothing in it. -/
def closingLine : Text :=
  ['{', '"', '"', ',', '0', '}', '}', ';']

theorem run_closingLine (h : Header) (rules : List Rule) :
    (Assembly.inside h rules).run (significant [closingLine])
      = some (.between, [h.stage (rules ++ [⟨[], 0, [], []⟩])]) := by
  rfl

/-- Lines that end inside a stage are completed by that line. -/
theorem parse_closed {ls : List Text} {hd : Header} {rules : List Rule} {t : Table}
    (h : Assembly.between.run (significant ls) = some (.inside hd rules, t))
    (ho : ∀ l ∈ ls, l.OneLine) :
    (Text.ofLines (ls ++ [closingLine])).lines = ls ++ [closingLine] ∧
      Table.parse (Text.ofLines (ls ++ [closingLine])) =
        .ok (t ++ [hd.stage (rules ++ [⟨[], 0, [], []⟩])]) := by
  have hclose : Text.OneLine closingLine := by
    simp only [closingLine, Text.oneLine_cons, Text.oneLine_nil]
    decide
  have hlines : Text.lines (Text.ofLines (ls ++ [closingLine])) = ls ++ [closingLine] := by
    apply Text.lines_ofLines
    intro l hl
    rcases List.mem_append.1 hl with hl | hl
    · exact ho l hl
    · exact List.mem_singleton.1 hl ▸ hclose
  have hrun := Assembly.run_append h (run_closingLine hd rules)
  rw [← significant_append, ← hlines] at hrun
  exact ⟨hlines, Table.parse_eq_ok_iff.2 hrun⟩

/-- **Lines without a fault can be completed** by at most one line. -/
theorem StandsAt.exists_completion {ls : List Text} {a : Assembly} (h : StandsAt ls a)
    (ho : ∀ l ∈ ls, l.OneLine) :
    ∃ (other : Text) (extra : List Text), other.lines = ls ++ extra ∧ extra.length ≤ 1 ∧
      ∃ t, Table.parse other = .ok t := by
  obtain ⟨t, ht⟩ := h
  cases a with
  | between =>
    -- The lines are a file already.
    refine ⟨Text.ofLines ls, [], ?_, by simp, t, ?_⟩
    · rw [Text.lines_ofLines ho, List.append_nil]
    · rw [Table.parse_eq_ok_iff, Text.lines_ofLines ho]
      exact ht
  | inside hd rules =>
    obtain ⟨hlines, hparse⟩ := parse_closed ht ho
    exact ⟨_, [closingLine], hlines, Nat.le_refl 1, _, hparse⟩

/-! ## Reasons -/

/-- A fault of format is that of a rule without a stage, of a header or of a rule,
by where reading stands and by the line. -/
theorem Assembly.reason_of_step_eq_error {a : Assembly} {line text : Text} {reason : FormatReason}
    (h : a.step line = .error (.format reason text)) :
    (reason = .ownerlessRule ↔ a = between ∧ IsRuleLine line) ∧
      (reason = .badHeader ↔ a = between ∧ ¬ IsRuleLine line) ∧
      (reason = .badRule ↔ ∃ hd rules, a = inside hd rules) := by
  cases a with
  | between =>
    rcases step_between_eq_error h with ⟨hl, hf⟩ | ⟨hl, hr⟩
    · rw [RecordFault.format.injEq] at hf
      simp [hf.1, hl]
    · rcases readHeader_eq_error hr with ⟨-, hf⟩ | ⟨p, -, -, hf⟩
      · rw [RecordFault.format.injEq] at hf
        simp [hf.1, hl]
      · simp at hf
  | inside hd rules =>
    rcases readRule_eq_error (step_inside_eq_error h) with ⟨-, hf⟩ | ⟨p, -, -, hf⟩
    · rw [RecordFault.format.injEq] at hf
      simp [hf.1]
    · simp at hf

/-! ## The first fault -/

/-- A format error with a number comes from the line of that number. -/
theorem Table.exists_fault_of_number {source : Text} {e : FormatError} {n : Nat}
    (h : Table.parse source = .error (.format e)) (hn : e.number = some n) :
    ∃ front line back a text, source.lines = front ++ line :: back ∧ n = front.length + 1 ∧
      StandsAt front a ∧ isSilent line.strip = false ∧
      a.step line.strip = .error (.format e.reason text) ∧ e.line = some line := by
  rcases Table.parse_eq_error_iff.1 h with
    ⟨hd, rules, t, -, he⟩ | ⟨front, line, back, a, t, f, hls, hr, hl, hs, he⟩
  · rw [TableFault.format.injEq] at he
    rw [he] at hn
    simp at hn
  · cases f with
    | longNumeral digits => simp [RecordFault.inLine] at he
    | format reason text =>
      rw [RecordFault.inLine, TableFault.format.injEq] at he
      subst he
      rw [Option.some.injEq] at hn
      exact ⟨front, line, back, a, text, hls, hn.symm, ⟨t, hr⟩, hl, hs, rfl⟩

/-- **A fault is due to the lines up to it**: any text that begins with these has
the same one. -/
theorem Table.parse_of_take_lines {source other : Text} {front back : List Text} {line : Text}
    {a : Assembly} {f : RecordFault} (hls : source.lines = front ++ line :: back)
    (hstands : StandsAt front a) (hl : isSilent line.strip = false)
    (hs : a.step line.strip = .error f)
    (h : other.lines.take (front.length + 1) = source.lines.take (front.length + 1)) :
    Table.parse other = .error (f.inLine line (front.length + 1)) := by
  obtain ⟨t, ht⟩ := hstands
  have hfront : source.lines.take (front.length + 1) = front ++ [line] := by
    rw [hls, List.take_length_add_append]
    rfl
  have hlines : other.lines = front ++ line :: other.lines.drop (front.length + 1) := by
    rw [← List.take_append_drop (front.length + 1) other.lines, h, hfront]
    simp
  exact Table.parse_of_fault hlines ht hl hs

/-- **An error without a number** is that of a stage that is still open at the
end. -/
theorem Table.parse_eq_error_unnumbered_iff {source : Text} {e : FormatError} :
    (Table.parse source = .error (.format e) ∧ e.number = none) ↔
      ∃ h rules, StandsAt source.lines (.inside h rules) ∧
        e = ⟨.unterminatedStage h.name, none, none⟩ := by
  constructor
  · rintro ⟨he, hn⟩
    rcases Table.parse_eq_error_iff.1 he with
      ⟨hd, rules, t, ht, heq⟩ | ⟨front, line, back, a, t, f, -, -, -, -, heq⟩
    · rw [TableFault.format.injEq] at heq
      exact ⟨hd, rules, ⟨t, ht⟩, heq⟩
    · -- The fault of a line has a number, unless it is no error of format.
      cases f with
      | longNumeral digits => simp [RecordFault.inLine] at heq
      | format reason text =>
        rw [RecordFault.inLine, TableFault.format.injEq] at heq
        rw [heq] at hn
        simp at hn
  · rintro ⟨hd, rules, ⟨t, ht⟩, rfl⟩
    exact ⟨Table.parse_of_run ht, rfl⟩

/-- **The first fault is reported, and nothing else.** An error with a number
names the line of that number in full. The lines in front of it can be completed
to a text that describes a table; no text that begins with the lines up to it
does, and each fails with the very same error. The reason says where the lines
in front of it stand, and between stages whether the line is a rule line. An
error without a number means that all lines are accepted and the last stage is
open, and names this stage. -/
theorem Table.first_fault (source : Text) :
    (∀ e n, Table.parse source = .error (.format e) → e.number = some n →
      ∃ line, 1 ≤ n ∧ source.lines[n - 1]? = some line ∧ e.line = some line ∧
        (∃ (other : Text) (extra : List Text),
          other.lines = source.lines.take (n - 1) ++ extra ∧ extra.length ≤ 1 ∧
            ∃ t, Table.parse other = .ok t) ∧
        (∀ other : Text, other.lines.take n = source.lines.take n →
          Table.parse other = .error (.format e)) ∧
        (e.reason = .ownerlessRule ↔
          StandsAt (source.lines.take (n - 1)) .between ∧ IsRuleLine line.strip) ∧
        (e.reason = .badHeader ↔
          StandsAt (source.lines.take (n - 1)) .between ∧ ¬ IsRuleLine line.strip) ∧
        (e.reason = .badRule ↔
          ∃ h rules, StandsAt (source.lines.take (n - 1)) (.inside h rules))) ∧
    (∀ e, (Table.parse source = .error (.format e) ∧ e.number = none) ↔
      ∃ h rules, StandsAt source.lines (.inside h rules) ∧
        e = ⟨.unterminatedStage h.name, none, none⟩) := by
  refine ⟨fun e n he hn => ?_, fun e => Table.parse_eq_error_unnumbered_iff⟩
  obtain ⟨front, line, back, a, text, hls, rfl, hstands, hl, hs, hline⟩ :=
    Table.exists_fault_of_number he hn
  have htake : source.lines.take (front.length + 1 - 1) = front := by
    rw [hls, Nat.add_sub_cancel, List.take_left]
  have hget : source.lines[front.length + 1 - 1]? = some line := by
    rw [hls, Nat.add_sub_cancel, List.getElem?_append_right (Nat.le_refl _), Nat.sub_self]
    rfl
  have hone : ∀ l ∈ front, l.OneLine := by
    intro l hm
    apply Text.oneLine_of_mem_lines (t := source)
    rw [hls]
    exact List.mem_append_left _ hm
  have hsame : ∀ other : Text,
      other.lines.take (front.length + 1) = source.lines.take (front.length + 1) →
      Table.parse other = .error (.format e) := by
    intro other hother
    rw [Table.parse_of_take_lines hls hstands hl hs hother, RecordFault.inLine, ← hline, ← hn]
  -- The lines in front stand in one place, so saying that they stand at `b` is
  -- saying that `b` is the place where the fault was found.
  have hplace : ∀ b, StandsAt front b ↔ a = b :=
    fun b => ⟨hstands.unique, fun hab => hab ▸ hstands⟩
  obtain ⟨howner, hheader, hrule⟩ := Assembly.reason_of_step_eq_error hs
  refine ⟨line, by omega, hget, hline, ?_, hsame, ?_, ?_, ?_⟩
  · rw [htake]
    exact hstands.exists_completion hone
  · rw [htake, hplace, howner]
  · rw [htake, hplace, hheader]
  · rw [htake, hrule]
    exact exists_congr fun hd => exists_congr fun rules => (hplace _).symm

/-- A rule without its length, on the third line and behind an empty one. -/
theorem Table.first_fault_third_line :
    let source : Text := "\x7b \"A\", 1, 0, \x7b\x7d,\n\n  \x7b\"s\"\x7d\n\x7b".toList
    let line : Text := "  \x7b\"s\"\x7d".toList
    let e : FormatError := ⟨.badRule, some line, some 3⟩
    Table.parse source = .error (.format e) ∧ source.lines[2]? = some line ∧
      (∃ (other : Text) (extra : List Text),
        other.lines = source.lines.take 2 ++ extra ∧ extra.length ≤ 1 ∧
          ∃ t, Table.parse other = .ok t) ∧
      (∀ other : Text, other.lines.take 3 = source.lines.take 3 →
        Table.parse other = .error (.format e)) ∧
      ∃ h rules, StandsAt (source.lines.take 2) (.inside h rules) := by
  intro source line e
  have he : Table.parse source = .error (.format e) := by rfl
  obtain ⟨l, -, hl, hline, hcomplete, hsame, -, -, hrule⟩ :=
    (Table.first_fault source).1 e 3 he rfl
  have hlast : l = line := (Option.some.inj hline).symm
  exact ⟨he, hlast ▸ hl, hcomplete, hsame, hrule.1 rfl⟩

end Desinence
