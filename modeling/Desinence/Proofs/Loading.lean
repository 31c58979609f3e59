/-
Loading a file is parsing the text it holds.

Between the text and the parser stand its encoding and the unifying of newlines.
The first is undone by decoding, the second does not change the lines, and the
parser sees nothing but lines. So the outcome is that of parsing, to the place of
a fault. The log follows the reading: a record for each stage as it is completed,
and one for the table if there is no fault.
-/
import Desinence.Loading
import Desinence.Proofs.Assembly.Content
import Desinence.Proofs.Text.Utf8

set_option autoImplicit false

namespace Desinence

/-! ## What is read -/

/-- Unified newlines make no difference to a reading. -/
theorem Table.reading_unifyNewlines (s : Text) :
    Table.reading s.unifyNewlines = Table.reading s := by
  rw [Table.reading, Text.lines_unifyNewlines, Table.reading]

theorem Table.parse_unifyNewlines (s : Text) : Table.parse s.unifyNewlines = Table.parse s := by
  rw [Table.parse_eq_table, Table.reading_unifyNewlines, ← Table.parse_eq_table]

/-- The text of a file is what its bytes decode to, with unified newlines. -/
theorem textAt_of_decode {files : FileTree} {path : Path} {bytes : Bytes} {s : Text}
    (h : files.entryAt path = .ok (.file bytes)) (hbytes : Utf8.decode bytes = .ok s) :
    textAt files path = .ok s.unifyNewlines := by
  have hread : files.read path = .ok bytes := by
    rw [FileTree.read, h]
  simp only [textAt, hread, hbytes]

/-- The text of a file that holds an encoded text is that text with unified
newlines. -/
theorem textAt_of_encode {files : FileTree} {path : Path} {s : Text}
    (h : files.entryAt path = .ok (.file (Utf8.encode s))) :
    textAt files path = .ok s.unifyNewlines :=
  textAt_of_decode h (Utf8.decode_encode s)

/-! ## What is loaded -/

/-- **Loading a text** comes to what its reading comes to. The log has the record
of each stage, and at the end that of the table if there is one. -/
theorem load_of_text {files : FileTree} {path : Path} {s : Text}
    (h : textAt files path = .ok s) :
    (load files path).result = (Table.parse s).mapError .table ∧
      (load files path).log = (Table.reading s).stages.map stageRecord ++
        ((Table.parse s).toOption.map (tableRecord path)).toList := by
  rw [Table.parse_eq_table, Reading.table]
  cases hf : (Table.reading s).fault with
  | none =>
    simp only [load, h, hf]
    exact ⟨rfl, rfl⟩
  | some fault =>
    simp only [load, h, hf]
    exact ⟨rfl, (List.append_nil _).symm⟩

/-- The two kinds of records have different levels. -/
theorem exists_info_iff {path : Path} {t : Table} {p : Except TableFault Table} :
    (∃ r ∈ t.map stageRecord ++ (p.toOption.map (tableRecord path)).toList,
      r.level = Level.info) ↔ ∃ u, p = .ok u := by
  constructor
  · rintro ⟨r, hr, hlevel⟩
    rcases List.mem_append.1 hr with hr | hr
    · obtain ⟨s, -, rfl⟩ := List.mem_map.1 hr
      have hne : Level.debug ≠ Level.info := by decide
      exact absurd hlevel hne
    · cases p with
      | ok u => exact ⟨u, rfl⟩
      | error f => simp [Except.toOption] at hr
  · rintro ⟨u, rfl⟩
    exact ⟨tableRecord path u, List.mem_append_right _ (List.mem_singleton_self _), rfl⟩

/-- **Loading and layout.** A file that holds the encoding of a text loads as the
text parses: the same table, or the same fault with the same place. The log has a
record for each stage that the lines complete, in their order and also when a line
behind them is at fault, and after them one of the table exactly if there is one.
Blanks, comments and empty lines have no part in it: texts with the same
significant lines and without long numerals describe the same table, or fail for
the same reason. -/
theorem load_file_and_layout :
    (∀ (files : FileTree) (path : Path) (s : Text),
      files.entryAt path = .ok (.file (Utf8.encode s)) →
        (load files path).result = (Table.parse s).mapError .table ∧
        (∃ t, Completed s.lines t ∧ (∀ u, Table.parse s = .ok u → t = u) ∧
          (load files path).log = t.map stageRecord ++
            ((Table.parse s).toOption.map (tableRecord path)).toList) ∧
        ((∃ r ∈ (load files path).log, r.level = Level.info) ↔
          ∃ u, Table.parse s = .ok u)) ∧
    ∀ a b : Text, a.ShortNumerals → b.ShortNumerals →
      significant a.lines = significant b.lines →
        (∃ t, Table.parse a = .ok t ∧ Table.parse b = .ok t) ∨
          ∃ e e', Table.parse a = .error (.format e) ∧ Table.parse b = .error (.format e') ∧
            e.reason = e'.reason := by
  refine ⟨fun files path s hfile => ?_, fun a b => Table.parse_of_significant_eq⟩
  have hparse : Table.parse s.unifyNewlines = Table.parse s := Table.parse_unifyNewlines s
  obtain ⟨hresult, hlog⟩ := load_of_text (textAt_of_encode hfile)
  rw [hparse] at hresult
  rw [hparse, Table.reading_unifyNewlines] at hlog
  refine ⟨hresult, ⟨(Table.reading s).stages, completed_readLines 1 s.lines, fun u hu => ?_, hlog⟩,
    ?_⟩
  · rw [Table.parse_eq_ok_iff] at hu
    rw [Table.reading, readLines_of_run hu]
  · rw [hlog]
    exact exists_info_iff

/-- A file with three kinds of boundaries and letters of one to four bytes, whose
last line is at fault behind a completed stage; and the table of that stage, spelled
in two ways. -/
theorem load_file_and_layout_mixed_newlines :
    let stage : Stage := ⟨['A'], 0, false, [], [⟨['ã', '€', '𝛼'], 1, [], []⟩]⟩
    let a : Text := "\x7b \"A\", 0, 0, \x7b\x7d,\r\n\x7b\"ã€𝛼\",1\x7d\x7d;".toList
    let b : Text :=
      "\u2028 \x7b \"A\", 0, 0, \x7b\x7d,\r# x\r\r\n\t\x7b\"ã€𝛼\",1\x7d\x7d;\x0c".toList
    let s : Text := b ++ ['x']
    let path : Path := ⟨0, [['r']]⟩
    let files : FileTree := ⟨[], [([['r']], .file (Utf8.encode s))]⟩
    let e : FormatError := ⟨.badHeader, some ['x'], some 6⟩
    (load files path).result = .error (.table (.format e)) ∧
      (∃ t, Completed s.lines t ∧ (load files path).log = t.map stageRecord) ∧
      (¬ ∃ r ∈ (load files path).log, r.level = Level.info) ∧
      Table.parse a = .ok [stage] ∧ Table.parse b = .ok [stage] := by
  intro stage a b s path files e
  have hfile : files.entryAt path = .ok (.file (Utf8.encode s)) := by rfl
  have hs : Table.parse s = .error (.format e) := by rfl
  have ha : Table.parse a = .ok [stage] := by rfl
  obtain ⟨hresult, ⟨t, ht, -, hlog⟩, hinfo⟩ := load_file_and_layout.1 files path s hfile
  rw [hs] at hresult hlog
  refine ⟨hresult, ⟨t, ht, hlog.trans (List.append_nil _)⟩, fun h => ?_, ha, ?_⟩
  · obtain ⟨u, hu⟩ := hinfo.1 h
    rw [hs] at hu
    simp at hu
  · have hshort : ∀ x : Text, x.length ≤ numeralLimit → x.ShortNumerals :=
      fun x hx run hrun _ => Nat.le_trans hrun.length_le hx
    have hsame : significant a.lines = significant b.lines := by decide +kernel
    rcases load_file_and_layout.2 a b (hshort a (by decide)) (hshort b (by decide)) hsame with
      ⟨u, hu, hb⟩ | ⟨f, g, hf, -⟩
    · rw [hb, ← hu, ha]
    · rw [ha] at hf
      simp at hf

end Desinence
