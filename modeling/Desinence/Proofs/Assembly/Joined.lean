/-
Two texts with a line feed between them.

The line feed parts the lines of the two, whatever the first one ends with, and
adds at most an empty line. A text that describes a table leaves reading between
stages, where it began. So what follows is read as if it stood alone, except that
its lines have larger numbers: `readLines_add` is this one difference, by
induction on the lines. A text with a line at fault is read up to that line and
no further, whatever follows.
-/
import Desinence.Proofs.Assembly.FirstFault

set_option autoImplicit false

namespace Desinence

/-! ## Larger line numbers -/

/-- The error with its number, if it has one, increased. -/
def FormatError.shift (k : Nat) (e : FormatError) : FormatError :=
  { e with number := e.number.map (· + k) }

/-- The fault with its line's number increased. -/
def TableFault.shift (k : Nat) : TableFault → TableFault
  | .format e => .format (e.shift k)
  | .longNumeral digits => .longNumeral digits

theorem RecordFault.inLine_add (f : RecordFault) (line : Text) (n k : Nat) :
    f.inLine line (n + k) = (f.inLine line n).shift k := by
  cases f <;> rfl

/-- The end of the lines has no number. -/
theorem Assembly.map_shift_atEnd (a : Assembly) (k : Nat) :
    a.atEnd.map (TableFault.shift k) = a.atEnd := by
  cases a <;> rfl

/-- **Reading with larger numbers** is reading, with a larger number in the
fault. -/
theorem readLines_add (a : Assembly) (n k : Nat) (ls : List Text) :
    readLines a (n + k) ls = (readLines a n ls).mapFault (TableFault.shift k) := by
  induction ls generalizing a n with
  | nil => rw [readLines_nil, readLines_nil, Reading.mapFault, a.map_shift_atEnd]
  | cons l ls ih =>
    have hnext : n + k + 1 = n + 1 + k := by omega
    rw [readLines_cons, readLines_cons, hnext]
    cases isSilent l.strip with
    | true => exact ih a (n + 1)
    | false =>
      cases a.step l.strip with
      | error f =>
        simp only [Bool.false_eq_true, if_false, f.inLine_add]
        rfl
      | ok x => simp only [Bool.false_eq_true, if_false, ih, Reading.mapFault_push]

/-! ## Joined texts -/

/-- A line feed at the end adds no significant line. -/
theorem significant_lines_concat_newline (s : Text) :
    significant (s ++ ['\n']).lines = significant s.lines := by
  rcases Text.lines_concat_newline s with h | h
  · rw [h]
  · rw [h, significant_append, significant_cons_of_silent rfl, significant_nil, List.append_nil]

/-- The lines of the first text are those that the joined text begins with. -/
theorem exists_lines_append_newline (s t : Text) :
    ∃ more, (s ++ '\n' :: t).lines = s.lines ++ more := by
  rw [Text.lines_append_newline_append]
  rcases Text.lines_concat_newline s with h | h
  · exact ⟨t.lines, by rw [h]⟩
  · exact ⟨[] :: t.lines, by rw [h, List.append_assoc, List.singleton_append]⟩

namespace Table

/-- **Behind a text that describes a table** reading goes on as at the beginning
of a text. -/
theorem reading_joined {a : Text} {t : Table} (h : parse a = .ok t) (b : Text) :
    reading (a ++ '\n' :: b) =
      ⟨t ++ (reading b).stages,
        (reading b).fault.map (TableFault.shift (a ++ ['\n']).lines.length)⟩ := by
  have hrun : Assembly.run .between (significant (a ++ ['\n']).lines) = some (.between, t) := by
    rw [significant_lines_concat_newline]
    exact parse_eq_ok_iff.1 h
  rw [reading, Text.lines_append_newline_append, readLines_append hrun, readLines_add, reading]
  rfl

/-- Such a text puts its stages in front of the other's, and its lines in front of
the line at fault. -/
theorem parse_joined_of_ok {a : Text} {t : Table} (h : parse a = .ok t) (b : Text) :
    parse (a ++ '\n' :: b) =
      ((parse b).map (t ++ ·)).mapError (TableFault.shift (a ++ ['\n']).lines.length) := by
  rw [parse_eq_table, parse_eq_table, reading_joined h]
  cases hb : (reading b).fault <;> simp [Reading.table, hb, Except.map]

/-- **A line at fault in the first text** is the fault of the joined one. -/
theorem parse_joined_of_numbered {a : Text} {e : FormatError} {n : Nat}
    (h : parse a = .error (.format e)) (hn : e.number = some n) (b : Text) :
    parse (a ++ '\n' :: b) = .error (.format e) := by
  obtain ⟨front, line, back, s, text, hls, rfl, ⟨t, hr⟩, hl, hs, hline⟩ :=
    exists_fault_of_number h hn
  obtain ⟨more, hmore⟩ := exists_lines_append_newline a b
  rw [hls, List.append_assoc, List.cons_append] at hmore
  rw [parse_of_fault hmore hr hl hs, RecordFault.inLine, ← hline, ← hn]

/-- **The concatenation law.** Behind a text that describes a table and a line
feed, any text adds its own stages if it describes a table. If it has a fault,
this is the fault of the whole, its line's number increased by the number of lines
in front. A fault in a line of the first text is the fault of the whole, whatever
follows. -/
theorem parse_joined (a b : Text) :
    (∀ t, parse a = .ok t →
      (∀ u, parse b = .ok u → parse (a ++ '\n' :: b) = .ok (t ++ u)) ∧
      ∀ fault, parse b = .error fault →
        parse (a ++ '\n' :: b) = .error (fault.shift (a ++ ['\n']).lines.length)) ∧
    ∀ e n, parse a = .error (.format e) → e.number = some n →
      parse (a ++ '\n' :: b) = .error (.format e) := by
  refine ⟨fun t ht => ⟨fun u hu => ?_, fun fault hf => ?_⟩, fun e n he hn => ?_⟩
  · rw [parse_joined_of_ok ht, hu]
    rfl
  · rw [parse_joined_of_ok ht, hf]
    rfl
  · exact parse_joined_of_numbered he hn b

/-- A table whose text ends with a carriage return, in front of itself, of a bad
header in the second line, and behind a rule without a stage. -/
theorem parse_joined_carriage_return :
    let a : Text := "\x7b\"A\",0,0,\x7b\x7d,\n\n\x7b\"s\",1\x7d\x7d;\r".toList
    let b : Text := "#\u2028 \x7b\"B\"".toList
    let c : Text := "\x0c\x7b\"s\",1\x7d".toList
    let t : Table := [⟨['A'], 0, false, [], [⟨['s'], 1, [], []⟩]⟩]
    let e : FormatError := ⟨.ownerlessRule, some "\x7b\"s\",1\x7d".toList, some 2⟩
    parse a = .ok t ∧ parse (a ++ '\n' :: a) = .ok (t ++ t) ∧
      parse b = .error (.format ⟨.badHeader, some " \x7b\"B\"".toList, some 2⟩) ∧
      parse (a ++ '\n' :: b) = .error (.format ⟨.badHeader, some " \x7b\"B\"".toList, some 5⟩) ∧
      parse c = .error (.format e) ∧ parse (c ++ '\n' :: a) = .error (.format e) := by
  intro a b c t e
  have ha : parse a = .ok t := by rfl
  have hb : parse b = .error (.format ⟨.badHeader, some " \x7b\"B\"".toList, some 2⟩) := by rfl
  have hc : parse c = .error (.format e) := by rfl
  exact ⟨ha, ((parse_joined a a).1 t ha).1 t ha, hb, ((parse_joined a b).1 t ha).2 _ hb, hc,
    (parse_joined c a).2 e 2 hc rfl⟩

end Table

end Desinence
