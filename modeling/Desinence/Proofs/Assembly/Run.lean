/-
Runs of the assembly.

`Assembly.run` takes a standing through lines that say something and collects
the stages they complete; it has no value if one of the lines is at fault. What
reading a file does is then said in terms of runs: lines without a fault are a
run over the significant ones among them (`readLines_append`), and where the
whole has no run there is a first line at fault behind lines that have one
(`exists_fault_of_run_eq_none`). Numbers of lines enter only here.
-/
import Desinence.Assembly

set_option autoImplicit false

namespace Desinence

/-! ## Significant lines -/

/-- **The lines that say something**, stripped, in their order. -/
def significant (ls : List Text) : List Text :=
  (ls.map Text.strip).filter (!isSilent ·)

@[simp] theorem significant_nil : significant [] = [] := rfl

theorem significant_cons_of_silent {l : Text} (h : isSilent l.strip = true) (ls : List Text) :
    significant (l :: ls) = significant ls := by
  simp [significant, h]

theorem significant_cons_of_not_silent {l : Text} (h : isSilent l.strip = false)
    (ls : List Text) : significant (l :: ls) = l.strip :: significant ls := by
  simp [significant, h]

theorem significant_append (ls ms : List Text) :
    significant (ls ++ ms) = significant ls ++ significant ms := by
  simp [significant]

/-- A significant line is the strip of a line, and is not silent. -/
theorem mem_significant {ls : List Text} {line : Text} (h : line ∈ significant ls) :
    ∃ l ∈ ls, line = l.strip ∧ isSilent line = false := by
  simp only [significant, List.mem_filter, List.mem_map, Bool.not_eq_true'] at h
  obtain ⟨⟨l, hl, rfl⟩, hs⟩ := h
  exact ⟨l, hl, rfl, hs⟩

/-- Lines that are their own strips and not silent are all significant. -/
theorem significant_eq_self {ls : List Text}
    (h : ∀ l ∈ ls, l.strip = l ∧ isSilent l = false) : significant ls = ls := by
  have hmap : ls.map Text.strip = ls := by
    rw [List.map_congr_left (g := id) fun l hl => (h l hl).1, List.map_id]
  rw [significant, hmap, List.filter_eq_self]
  intro l hl
  rw [(h l hl).2]
  rfl

/-! ## Runs -/

namespace Assembly

/-- **A run over lines**: where it leads, and the stages completed on the way. -/
def run : Assembly → List Text → Option (Assembly × Table)
  | a, [] => some (a, [])
  | a, line :: rest =>
    match a.step line with
    | .error _ => none
    | .ok (b, completed) => (run b rest).map fun r => (r.1, completed.toList ++ r.2)

@[simp] theorem run_nil (a : Assembly) : a.run [] = some (a, []) := rfl

theorem run_cons_of_ok {a b : Assembly} {line : Text} {completed : Option Stage}
    (h : a.step line = .ok (b, completed)) (rest : List Text) :
    a.run (line :: rest) = (b.run rest).map fun r => (r.1, completed.toList ++ r.2) := by
  rw [run, h]

theorem run_cons_of_error {a : Assembly} {line : Text} {f : RecordFault}
    (h : a.step line = .error f) (rest : List Text) : a.run (line :: rest) = none := by
  rw [run, h]

/-- The first line of a run is a step. -/
theorem run_cons_eq_some_iff {a c : Assembly} {line : Text} {rest : List Text} {t : Table} :
    a.run (line :: rest) = some (c, t) ↔
      ∃ b completed u, a.step line = .ok (b, completed) ∧ b.run rest = some (c, u) ∧
        t = completed.toList ++ u := by
  cases h : a.step line with
  | error f =>
    rw [run_cons_of_error h]
    simp
  | ok x =>
    obtain ⟨b, completed⟩ := x
    rw [run_cons_of_ok h, Option.map_eq_some_iff]
    constructor
    · rintro ⟨⟨c', u⟩, hr, he⟩
      rw [Prod.mk.injEq] at he
      obtain ⟨rfl, rfl⟩ := he
      exact ⟨b, completed, u, rfl, hr, rfl⟩
    · rintro ⟨b', completed', u, hs, hr, rfl⟩
      rw [Except.ok.injEq, Prod.mk.injEq] at hs
      obtain ⟨rfl, rfl⟩ := hs
      exact ⟨(c, u), hr, rfl⟩

/-- **Runs compose**: one over the first lines, then one over the others. -/
theorem run_append {a b c : Assembly} {xs ys : List Text} {t u : Table}
    (hx : a.run xs = some (b, t)) (hy : b.run ys = some (c, u)) :
    a.run (xs ++ ys) = some (c, t ++ u) := by
  induction xs generalizing a t with
  | nil =>
    rw [run_nil, Option.some.injEq, Prod.mk.injEq] at hx
    obtain ⟨rfl, rfl⟩ := hx
    exact hy
  | cons line xs ih =>
    obtain ⟨a', completed, v, hs, hr, rfl⟩ := run_cons_eq_some_iff.1 hx
    rw [List.cons_append, run_cons_of_ok hs, ih hr, Option.map_some, List.append_assoc]

end Assembly

/-! ## Reading lines -/

/-- What the end of the lines means for a standing. -/
def Assembly.atEnd : Assembly → Option TableFault
  | .between => none
  | .inside h _ => some (.format ⟨.unterminatedStage h.name, none, none⟩)

theorem readLines_nil (a : Assembly) (n : Nat) : readLines a n [] = ⟨[], a.atEnd⟩ := by
  cases a <;> rfl

theorem readLines_cons (a : Assembly) (n : Nat) (line : Text) (rest : List Text) :
    readLines a n (line :: rest) =
      if isSilent line.strip then readLines a (n + 1) rest
      else match a.step line.strip with
        | .error fault => ⟨[], some (fault.inLine line n)⟩
        | .ok (next, completed) => (readLines next (n + 1) rest).push completed := by
  cases a <;> rfl

theorem Reading.push_eq (r : Reading) (s : Option Stage) :
    r.push s = ⟨s.toList ++ r.stages, r.fault⟩ := by
  cases s <;> rfl

@[simp] theorem mapError_ok {ε ε' α : Type} (g : ε → ε') (x : α) :
    (Except.ok x : Except ε α).mapError g = .ok x := rfl

@[simp] theorem mapError_error {ε ε' α : Type} (g : ε → ε') (e : ε) :
    (Except.error e : Except ε α).mapError g = .error (g e) := rfl

/-- Faults and values are replaced apart from each other. -/
theorem mapError_map {ε ε' α β : Type} (g : ε → ε') (f : α → β) (x : Except ε α) :
    (x.map f).mapError g = (x.mapError g).map f := by
  cases x <;> rfl

/-- What a reading comes to: its stages as a table, or its fault. -/
def Reading.table (r : Reading) : Except TableFault Table :=
  r.fault.elim (.ok r.stages) .error

/-- The reading with another fault in place of its own. -/
def Reading.mapFault (g : TableFault → TableFault) (r : Reading) : Reading :=
  ⟨r.stages, r.fault.map g⟩

theorem Reading.mapFault_push (g : TableFault → TableFault) (r : Reading) (s : Option Stage) :
    (r.push s).mapFault g = (r.mapFault g).push s := by
  cases s <;> rfl

theorem Reading.table_mapFault (g : TableFault → TableFault) (r : Reading) :
    (r.mapFault g).table = r.table.mapError g := by
  obtain ⟨stages, fault⟩ := r
  cases fault <;> rfl

/-- **Lines that have a run** are read on from where it leads. -/
theorem readLines_append {a b : Assembly} {ls : List Text} {t : Table}
    (h : a.run (significant ls) = some (b, t)) (n : Nat) (rest : List Text) :
    readLines a n (ls ++ rest) =
      ⟨t ++ (readLines b (n + ls.length) rest).stages,
        (readLines b (n + ls.length) rest).fault⟩ := by
  induction ls generalizing a n t with
  | nil =>
    rw [significant_nil, Assembly.run_nil, Option.some.injEq, Prod.mk.injEq] at h
    obtain ⟨rfl, rfl⟩ := h
    rfl
  | cons l ls ih =>
    have hlen : n + 1 + ls.length = n + (l :: ls).length := by
      rw [List.length_cons]
      omega
    rw [List.cons_append, readLines_cons, ← hlen]
    cases hl : isSilent l.strip with
    | true =>
      rw [significant_cons_of_silent hl] at h
      exact ih h (n + 1)
    | false =>
      rw [significant_cons_of_not_silent hl] at h
      obtain ⟨a', completed, u, hs, hr, rfl⟩ := Assembly.run_cons_eq_some_iff.1 h
      simp only [hs, Bool.false_eq_true, if_false]
      rw [ih hr, Reading.push_eq, List.append_assoc]

/-- Lines that have a run have only the fault of their end. -/
theorem readLines_of_run {a b : Assembly} {ls : List Text} {t : Table}
    (h : a.run (significant ls) = some (b, t)) (n : Nat) :
    readLines a n ls = ⟨t, b.atEnd⟩ := by
  have hr := readLines_append h n []
  rw [List.append_nil, readLines_nil, List.append_nil] at hr
  exact hr

/-- **A fault behind a run** is reported with its whole line and its number. -/
theorem readLines_of_fault {a b : Assembly} {ls rest : List Text} {line : Text} {t : Table}
    {f : RecordFault} (h : a.run (significant ls) = some (b, t))
    (hl : isSilent line.strip = false) (hs : b.step line.strip = .error f) (n : Nat) :
    readLines a n (ls ++ line :: rest) = ⟨t, some (f.inLine line (n + ls.length))⟩ := by
  rw [readLines_append h, readLines_cons, hl]
  simp only [hs, Bool.false_eq_true, if_false, List.append_nil]

/-- **The first line at fault**: where there is no run over the lines, there is
one over those in front of some line that cannot be stepped over. -/
theorem exists_fault_of_run_eq_none {a : Assembly} {ls : List Text}
    (h : a.run (significant ls) = none) :
    ∃ front line back b t f, ls = front ++ line :: back ∧
      a.run (significant front) = some (b, t) ∧ isSilent line.strip = false ∧
      b.step line.strip = .error f := by
  induction ls generalizing a with
  | nil => simp at h
  | cons l ls ih =>
    cases hl : isSilent l.strip with
    | true =>
      -- A silent line goes to the lines in front and does not change their run.
      rw [significant_cons_of_silent hl] at h
      obtain ⟨front, line, back, b, t, f, rfl, hr, hline, hs⟩ := ih h
      refine ⟨l :: front, line, back, b, t, f, rfl, ?_, hline, hs⟩
      rw [significant_cons_of_silent hl]
      exact hr
    | false =>
      rw [significant_cons_of_not_silent hl] at h
      cases hs : a.step l.strip with
      | error f => exact ⟨[], l, ls, a, [], f, rfl, rfl, hl, hs⟩
      | ok x =>
        obtain ⟨a', completed⟩ := x
        rw [Assembly.run_cons_of_ok hs, Option.map_eq_none_iff] at h
        obtain ⟨front, line, back, b, t, f, rfl, hr, hline, hf⟩ := ih h
        refine ⟨l :: front, line, back, b, completed.toList ++ t, f, rfl, ?_, hline, hf⟩
        rw [significant_cons_of_not_silent hl, Assembly.run_cons_of_ok hs, hr, Option.map_some]

/-! ## Parsing -/

namespace Table

theorem parse_eq_table (source : Text) : parse source = (reading source).table := by
  rw [parse, Reading.table]
  cases (reading source).fault <;> rfl

/-- A text whose lines have a run has only the fault of its end. -/
theorem parse_of_run {source : Text} {b : Assembly} {t : Table}
    (h : Assembly.run .between (significant source.lines) = some (b, t)) :
    parse source = b.atEnd.elim (.ok t) .error := by
  rw [parse, reading, readLines_of_run h]
  cases b <;> rfl

/-- A text with a line at fault behind lines that have a run. -/
theorem parse_of_fault {source : Text} {front back : List Text} {line : Text}
    {b : Assembly} {t : Table} {f : RecordFault} (hls : source.lines = front ++ line :: back)
    (hr : Assembly.run .between (significant front) = some (b, t))
    (hl : isSilent line.strip = false) (hs : b.step line.strip = .error f) :
    parse source = .error (f.inLine line (front.length + 1)) := by
  rw [parse, reading, hls, readLines_of_fault hr hl hs, Nat.add_comm]

/-- **A text describes a table** when its significant lines lead from between
stages back there and complete that table. -/
theorem parse_eq_ok_iff {source : Text} {t : Table} :
    parse source = .ok t ↔
      Assembly.run .between (significant source.lines) = some (.between, t) := by
  cases h : Assembly.run .between (significant source.lines) with
  | none =>
    obtain ⟨front, line, back, b, u, f, hls, hr, hl, hs⟩ := exists_fault_of_run_eq_none h
    simp [parse_of_fault hls hr hl hs]
  | some x =>
    obtain ⟨b, u⟩ := x
    rw [parse_of_run h]
    cases b <;> simp [Assembly.atEnd]

/-- **What a fault is due to**: the text ends inside a stage, or there is a first
line at fault. -/
theorem parse_eq_error_iff {source : Text} {fault : TableFault} :
    parse source = .error fault ↔
      (∃ h rules t, Assembly.run .between (significant source.lines) = some (.inside h rules, t) ∧
        fault = .format ⟨.unterminatedStage h.name, none, none⟩) ∨
      ∃ front line back b t f, source.lines = front ++ line :: back ∧
        Assembly.run .between (significant front) = some (b, t) ∧
        isSilent line.strip = false ∧ b.step line.strip = .error f ∧
        fault = f.inLine line (front.length + 1) := by
  constructor
  · intro h
    cases hrun : Assembly.run .between (significant source.lines) with
    | none =>
      obtain ⟨front, line, back, b, t, f, hls, hr, hl, hs⟩ := exists_fault_of_run_eq_none hrun
      rw [parse_of_fault hls hr hl hs, Except.error.injEq] at h
      exact .inr ⟨front, line, back, b, t, f, hls, hr, hl, hs, h.symm⟩
    | some x =>
      obtain ⟨b, t⟩ := x
      rw [parse_of_run hrun] at h
      cases b with
      | between => simp [Assembly.atEnd] at h
      | inside hd rules =>
        simp only [Assembly.atEnd, Option.elim_some, Except.error.injEq] at h
        exact .inl ⟨hd, rules, t, rfl, h.symm⟩
  · -- Either way the run is known, and with it the reading.
    rintro (⟨h, rules, t, hr, rfl⟩ | ⟨front, line, back, b, t, f, hls, hr, hl, hs, rfl⟩)
    · exact parse_of_run hr
    · exact parse_of_fault hls hr hl hs

end Table

end Desinence
