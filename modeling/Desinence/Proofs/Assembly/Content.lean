/-
What a reading owes to its lines.

A fault names a line and its number. These two apart, a reading depends on the
significant lines alone: comments, empty lines and blanks at either end of a line
make no difference (`readLines_significant`, by induction on the lines). Texts
with the same significant lines therefore describe the same table, or fail for
the same reason.

The stages of a reading are those of a run, also when the reading fails: it is the
run over the lines in front of the first one at fault (`completed_readLines`).
-/
import Desinence.Proofs.Assembly.Block
import Desinence.Proofs.Text.Blank

set_option autoImplicit false

namespace Desinence

/-! ## Faults without a place -/

/-- The fault without its line and number. -/
def TableFault.unplaced : TableFault → TableFault
  | .format e => .format ⟨e.reason, none, none⟩
  | .longNumeral digits => .longNumeral digits

/-- Without its place a fault of a record is the same on any line. -/
theorem RecordFault.unplaced_inLine (f : RecordFault) (line line' : Text) (n n' : Nat) :
    (f.inLine line n).unplaced = (f.inLine line' n').unplaced := by
  cases f <;> rfl

/-! ## Significant lines -/

/-- **Reading the lines** is reading the significant ones, but for the place of a
fault. -/
theorem readLines_significant (a : Assembly) (n n' : Nat) (ls : List Text) :
    (readLines a n ls).mapFault TableFault.unplaced =
      (readLines a n' (significant ls)).mapFault TableFault.unplaced := by
  induction ls generalizing a n n' with
  | nil => rw [significant_nil, readLines_nil, readLines_nil]
  | cons l ls ih =>
    cases hl : isSilent l.strip with
    | true =>
      rw [readLines_cons, if_pos hl, significant_cons_of_silent hl]
      exact ih a (n + 1) n'
    | false =>
      rw [significant_cons_of_not_silent hl, readLines_cons, readLines_cons, Text.strip_strip, hl]
      cases a.step l.strip with
      | error f =>
        have hplace := f.unplaced_inLine l l.strip n n'
        simp only [Bool.false_eq_true, if_false, Reading.mapFault, Option.map_some, hplace]
      | ok x =>
        have hrest := ih x.1 (n + 1) (n' + 1)
        simp only [Bool.false_eq_true, if_false, Reading.mapFault_push, hrest]

namespace Table

/-- **Texts with the same significant lines** come to the same, but for the place
of a fault. -/
theorem parse_unplaced_congr {a b : Text} (h : significant a.lines = significant b.lines) :
    (parse a).mapError TableFault.unplaced = (parse b).mapError TableFault.unplaced := by
  rw [parse_eq_table, parse_eq_table, ← Reading.table_mapFault, ← Reading.table_mapFault, reading,
    reading, readLines_significant .between 1 1 a.lines, h, ← readLines_significant]

/-- Without long numerals they describe the same table or fail for the same
reason. -/
theorem parse_of_significant_eq {a b : Text} (ha : a.ShortNumerals) (hb : b.ShortNumerals)
    (h : significant a.lines = significant b.lines) :
    (∃ t, parse a = .ok t ∧ parse b = .ok t) ∨
      ∃ e e', parse a = .error (.format e) ∧ parse b = .error (.format e') ∧
        e.reason = e'.reason := by
  have heq := parse_unplaced_congr h
  cases hpa : parse a with
  | ok t =>
    cases hpb : parse b with
    | ok u =>
      rw [hpa, hpb] at heq
      exact .inl ⟨t, rfl, congrArg _ (Except.ok.inj heq).symm⟩
    | error g => simp [hpa, hpb] at heq
  | error f =>
    cases hpb : parse b with
    | ok u => simp [hpa, hpb] at heq
    | error g =>
      obtain ⟨e, he⟩ := exists_format_of_parse_ne_ok ha (by simp [hpa])
      obtain ⟨e', he'⟩ := exists_format_of_parse_ne_ok hb (by simp [hpb])
      rw [he, he'] at heq
      simp only [mapError_error, TableFault.unplaced, Except.error.injEq, TableFault.format.injEq,
        FormatError.mk.injEq, and_true] at heq
      exact .inr ⟨e, e', hpa ▸ he, hpb ▸ he', heq⟩

end Table

/-! ## Completed stages -/

/-- **The stages that lines complete**: those of a run over all of them, or over
the ones in front of a line that cannot be stepped over. -/
def Completed (ls : List Text) (t : Table) : Prop :=
  ∃ front back a, ls = front ++ back ∧ Assembly.between.run (significant front) = some (a, t) ∧
    ∀ line ∈ back.head?, isSilent line.strip = false ∧ ∃ f, a.step line.strip = .error f

/-- **A reading has the stages that its lines complete**, be there a fault or
not. -/
theorem completed_readLines (n : Nat) (ls : List Text) :
    Completed ls (readLines .between n ls).stages := by
  cases h : Assembly.between.run (significant ls) with
  | none =>
    obtain ⟨front, line, back, a, t, f, rfl, hr, hl, hs⟩ := exists_fault_of_run_eq_none h
    refine ⟨front, line :: back, a, rfl, ?_, fun l hm => ?_⟩
    · rw [readLines_of_fault hr hl hs]
      exact hr
    · rw [List.head?_cons, Option.mem_some_iff] at hm
      rw [← hm]
      exact ⟨hl, f, hs⟩
  | some x =>
    refine ⟨ls, [], x.1, (List.append_nil ls).symm, ?_, by simp⟩
    rw [readLines_of_run h]
    exact h

end Desinence
