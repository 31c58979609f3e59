/-
What a check leaves, by the state of the files.

A check ends in one of three ways. If the table loads, its status is 0 and nothing goes to
the error output. If the file is missing or its text breaks the format, the status is 1
and all that is printed is one message on the error output. Any other flaw of the file, and
bytes that are no text, are passed on, and nothing is printed at all.

A message is one line as long as the name of the file is one: what it shows of the path and
a line of the file is quoted, and quoting leaves no line boundary; the name of a stage
that is not closed is shown as it is, but it stands on a line. Without arguments the file
is the check's own, and all this holds of it too.
-/
import Desinence.Check
import Desinence.Proofs.FormatError
import Desinence.Proofs.Loading
import Desinence.Proofs.Portuguese.Texts
import Desinence.Proofs.Service.Run
import Desinence.Proofs.Text.Pieces

set_option autoImplicit false

namespace Desinence

/-! ## Messages -/

/-- What is said about a file is one line. -/
theorem FileFault.oneLine_message (f : FileFault) : f.message.OneLine := by
  obtain ⟨flaw, path⟩ := f
  have hwords : ∀ flaw : PathFlaw, ∀ e ∈ flaw.systemError?, e.2.OneLine := by
    intro flaw
    cases flaw <;> decide
  rw [message]
  cases herror : flaw.systemError? with
  | none => exact (by decide : Text.OneLine "embedded null byte".toList)
  | some e =>
    have hopen : Text.OneLine "[Errno ".toList := by decide
    have hclose : Text.OneLine "] ".toList := by decide
    have hcolon : Text.OneLine ": ".toList := by decide
    exact ((((hopen.append (Text.oneLine_ofNat e.1)).append hclose).append
      (hwords flaw e herror)).append hcolon).append (Text.oneLine_quoted _)

/-- What is said about a place is one line if the reason is. -/
theorem oneLine_complaint {reason : Text} (h : reason.OneLine) (line : Option Text)
    (number : Option Nat) : (complaint reason line (number.map Int.ofNat)).OneLine := by
  have hword : Text.OneLine "line ".toList := by decide
  have hcolon : Text.OneLine ": ".toList := by decide
  have hplace : ∀ n : Nat, Text.OneLine ("line ".toList ++ Text.ofNat n ++ ": ".toList) :=
    fun n => (hword.append (Text.oneLine_ofNat n)).append hcolon
  have hshown : ∀ t : Text, Text.OneLine (": ".toList ++ t.quoted) :=
    fun t => hcolon.append (Text.oneLine_quoted t)
  have hnil : Text.OneLine [] := Text.oneLine_nil
  cases number with
  | none =>
    cases line with
    | none => exact (hnil.append h).append hnil
    | some t => exact (hnil.append h).append (hshown t)
  | some n =>
    cases line with
    | none => exact ((hplace n).append h).append hnil
    | some t => exact ((hplace n).append h).append (hshown t)

/-- The name of a stage that is open is one line, since its header is. -/
theorem StandsAt.oneLine_name {ls : List Text} {hd : Header} {rules : List Rule}
    (h : StandsAt ls (.inside hd rules)) (ho : ∀ l ∈ ls, l.OneLine) : hd.name.OneLine := by
  obtain ⟨t, ht⟩ := h
  -- Completed, the stage is one of a table that was read.
  obtain ⟨-, hparse⟩ := parse_closed ht ho
  have hstage : (hd.stage (rules ++ [⟨[], 0, [], []⟩])).WellFormed :=
    Table.wellFormed_of_parse hparse _ (List.mem_append_right _ (List.mem_singleton_self _))
  exact hstage.name.2

/-- **The message of a format error** is one line. -/
theorem FormatError.oneLine_message {source : Text} {e : FormatError}
    (h : Table.parse source = .error (.format e)) : e.message.OneLine := by
  have hreason : e.reason.text.OneLine := by
    obtain ⟨front, line, back, a, text, -, -, hstep, -, -⟩ | ⟨hd, rules, hstands, rfl⟩ :=
      Table.placedIn_of_parse h
    · have hline := Assembly.isOfLine_of_step hstep
      exact Text.oneLine_of_isPrintable fun c hc => (e.reason.smooth_text hline c hc).1
    · have hname := hstands.oneLine_name fun l hl => Text.oneLine_of_mem_lines hl
      have hfront : Text.OneLine "unterminated stage '".toList := by decide
      have hmissing : Text.OneLine "' (missing '".toList := by decide
      have hterminator : Text.OneLine ['}', ';'] := by decide
      have hback : Text.OneLine "')".toList := by decide
      exact (((hfront.append hname).append hmissing).append hterminator).append hback
  exact oneLine_complaint hreason e.line e.number

/-! ## The names of files -/

/-- **The name of a path is one line** exactly if the text is that the path was read from:
reading drops nothing but slashes and dots. -/
theorem Path.oneLine_text_ofText_iff {t : Text} : (ofText t).text.OneLine ↔ t.OneLine := by
  have hslash : isLineEnd '/' = false := by decide
  have hdot : isLineEnd '.' = false := by decide
  constructor
  · intro h c hc
    rw [Bool.eq_false_iff]
    intro hend
    -- A boundary stands in a piece of the text, and that piece is a part of the path.
    rw [← Text.joinWith_splitAt '/' t] at hc
    obtain hc | ⟨piece, hpiece, hc⟩ := Text.mem_joinWith hc
    · rw [List.mem_singleton.1 hc, hslash] at hend
      exact Bool.false_ne_true hend
    · have hpart : piece ∈ (ofText t).parts := by
        refine List.mem_filter.2 ⟨hpiece, ?_⟩
        have hne : piece ≠ [] := List.ne_nil_of_mem hc
        have hnedot : piece ≠ ['.'] := by
          rintro rfl
          rw [List.mem_singleton.1 hc, hdot] at hend
          exact Bool.false_ne_true hend
        simp [hne, hnedot]
      have hparts : ¬((ofText t).root = 0 ∧ (ofText t).parts = []) := by
        rintro ⟨-, hnil⟩
        rw [hnil] at hpart
        exact absurd hpart List.not_mem_nil
      rw [text, if_neg hparts, Text.oneLine_append] at h
      have hline := h.2 c ((Text.isInfix_joinWith hpart).subset hc)
      rw [hend] at hline
      exact Bool.noConfusion hline
  · intro h
    rw [text]
    split
    · exact Text.oneLine_cons.2 ⟨hdot, Text.oneLine_nil⟩
    · refine Text.OneLine.append (fun c hc => ?_) fun c hc => ?_
      · rw [List.eq_of_mem_replicate hc]
        exact hslash
      · obtain hc | ⟨piece, hpiece, hc⟩ := Text.mem_joinWith hc
        · rw [List.mem_singleton.1 hc]
          exact hslash
        · have hstretch : piece <:+: t := by
            rw [← Text.joinWith_splitAt '/' t]
            exact Text.isInfix_joinWith (List.mem_of_mem_filter hpiece)
          exact h c (hstretch.subset hc)

/-! ## Loading a file, by what it is -/

section Loading

variable {files : FileTree} {path : Path}

theorem load_of_text_eq_error {fault : LoadFault} (h : textAt files path = .error fault) :
    (load files path).result = .error fault := by
  simp only [load, h]

/-- A path that leads nowhere. -/
theorem load_of_flaw {flaw : PathFlaw} (h : files.entryAt path = .error flaw) :
    (load files path).result = .error (.file ⟨flaw, path⟩) := by
  apply load_of_text_eq_error
  simp only [textAt, FileTree.read, h]

/-- A folder. -/
theorem load_of_folder (h : files.entryAt path = .ok .folder) :
    (load files path).result = .error (.file ⟨.isAFolder, path⟩) := by
  apply load_of_text_eq_error
  simp only [textAt, FileTree.read, h]

/-- Bytes that are no text. -/
theorem load_of_broken {bytes : Bytes} {fault : Utf8.Fault}
    (h : files.entryAt path = .ok (.file bytes)) (hbytes : Utf8.decode bytes = .error fault) :
    (load files path).result = .error (.encoding fault) := by
  apply load_of_text_eq_error
  simp only [textAt, FileTree.read, h, hbytes]

/-- A text. -/
theorem load_of_decoded {bytes : Bytes} {s : Text} (h : files.entryAt path = .ok (.file bytes))
    (hbytes : Utf8.decode bytes = .ok s) :
    (load files path).result = (Table.parse s).mapError .table := by
  rw [(load_of_text (textAt_of_decode h hbytes)).1, Table.parse_unifyNewlines]

/-- **A table that was written** to the file. -/
theorem load_of_written {t : Table} (ht : t.WellFormed)
    (h : files.entryAt path = .ok (.file (Utf8.encode t.write))) :
    (load files path).result = .ok t := by
  rw [load_of_decoded h (Utf8.decode_encode _), ht.parse_write]
  rfl

end Loading

namespace Check

/-! ## Reports -/

/-- **A check that finds nothing wrong.** -/
structure Report.Succeeds (r : Report) : Prop where
  status : r.status = .ok 0
  err : r.err = []

/-- **A check that reports a fault** of a file: one message on the error output, which is
one line if and only if the name of the file is. -/
structure Report.Complains (r : Report) (name message : Text) : Prop where
  status : r.status = .ok 1
  out : r.out = []
  err : r.err = "Error loading ".toList ++ name ++ ": ".toList ++ message ++ ['\n']
  lines : r.err.lines = ["Error loading ".toList ++ name ++ ": ".toList ++ message] ↔
    name.OneLine

/-- **A check that passes a fault on**: it prints nothing. -/
structure Report.PassesOn (r : Report) (fault : LoadFault) : Prop where
  status : r.status = .error fault
  out : r.out = []
  err : r.err = []

variable {i : Invocation} {files : FileTree} {args : List Text}

/-- With a table the check succeeds. -/
theorem succeeds_of_load {table : Table} (hargs : asksForHelp args = false)
    (h : (load files (fileAndWords i args).1).result = .ok table) :
    (run i files args).Succeeds := by
  simp only [run, hargs, h]
  exact ⟨rfl, rfl⟩

theorem run_of_load_eq_error {fault : LoadFault} (hargs : asksForHelp args = false)
    (h : (load files (fileAndWords i args).1).result = .error fault) :
    run i files args = reportFault (fileAndWords i args).1 fault := by
  simp only [run, hargs, h]
  rfl

theorem reportFault_of_isReported {fault : LoadFault} (h : Service.IsReported fault) (path : Path) :
    reportFault path fault =
      ⟨[], printed ["Error loading ".toList ++ path.text ++ ": ".toList ++ fault.message],
        .ok 1⟩ := by
  have hcaught : (fault.isFormatError || fault.isMissingFile) = true := by
    rw [Bool.or_eq_true, Service.isFormatError_iff, Service.isMissingFile_iff]
    exact h
  rw [reportFault, if_pos hcaught]

/-- **A missing file and an error of format** are reported. -/
theorem complains_of_load {fault : LoadFault} (hargs : asksForHelp args = false)
    (h : (load files (fileAndWords i args).1).result = .error fault)
    (hfault : Service.IsReported fault) (hmessage : fault.message.OneLine) :
    (run i files args).Complains (fileAndWords i args).1.text fault.message := by
  have hloading : Text.OneLine "Error loading ".toList := by decide
  have hcolon : Text.OneLine ": ".toList := by decide
  rw [run_of_load_eq_error hargs h, reportFault_of_isReported hfault]
  refine ⟨rfl, rfl, List.append_nil _, fun hlines => ?_, fun hname => ?_⟩
  · have hline := Text.oneLine_of_mem_lines (hlines ▸ List.mem_singleton_self _)
    exact (Text.oneLine_append.1 (Text.oneLine_append.1 (Text.oneLine_append.1 hline).1).1).2
  · refine Text.lines_ofLines fun l hl => ?_
    rw [List.mem_singleton.1 hl]
    exact ((hloading.append hname).append hcolon).append hmessage

/-- **Every other fault** is passed on. -/
theorem passesOn_of_load {fault : LoadFault} (hargs : asksForHelp args = false)
    (h : (load files (fileAndWords i args).1).result = .error fault)
    (hfault : ¬Service.IsReported fault) : (run i files args).PassesOn fault := by
  have hcaught : ¬(fault.isFormatError || fault.isMissingFile) = true := by
    rw [Bool.or_eq_true, Service.isFormatError_iff, Service.isMissingFile_iff]
    exact hfault
  rw [run_of_load_eq_error hargs h, reportFault, if_neg hcaught]
  exact ⟨rfl, rfl, rfl⟩

/-- A numeral with too many digits is an error of another kind than those of the format,
so it is passed on although only the text of the file is to blame. -/
theorem passesOn_of_longNumeral {bytes : Bytes} {s : Text} {digits : Nat}
    (hargs : asksForHelp args = false)
    (hfile : files.entryAt (fileAndWords i args).1 = .ok (.file bytes))
    (hbytes : Utf8.decode bytes = .ok s) (hparse : Table.parse s = .error (.longNumeral digits)) :
    (run i files args).PassesOn (.table (.longNumeral digits)) := by
  have hload := load_of_decoded hfile hbytes
  rw [hparse] at hload
  exact passesOn_of_load hargs hload (by simp [Service.IsReported])

/-- The check without arguments succeeds where its own file is the Portuguese table. -/
theorem succeeds_of_portuguese
    (h : files.entryAt i.defaultFile = .ok (.file (Utf8.encode Portuguese.table.write))) :
    (run i files []).Succeeds :=
  succeeds_of_load rfl (load_of_written Portuguese.wellFormed_table h)

/-- **The outcome of a check**, by what its file is: the one that the first argument names,
or the check's own without arguments. The check succeeds if the file holds a text that
describes a table, whatever the words behind it. A file that is missing, and a text that
breaks the format, are reported by one message on the error output, with status 1; that is
one line exactly if the name of the file is. A folder, any other flaw of the path, and bytes
that are no text are passed on. -/
theorem outcome_of_check (i : Invocation) (files : FileTree) (args : List Text)
    (hargs : asksForHelp args = false) :
    let path := (fileAndWords i args).1
    let report := run i files args
    (args = [] → path = i.defaultFile) ∧
    (∀ file words, args = file :: words →
      path = .ofText file ∧ (path.text.OneLine ↔ file.OneLine)) ∧
    (∀ bytes s, files.entryAt path = .ok (.file bytes) → Utf8.decode bytes = .ok s →
      (∀ t, Table.parse s = .ok t → report.Succeeds) ∧
      ∀ e, Table.parse s = .error (.format e) → report.Complains path.text e.message) ∧
    (files.entryAt path = .error .missing →
      report.Complains path.text (FileFault.message ⟨.missing, path⟩)) ∧
    (files.entryAt path = .ok .folder → report.PassesOn (.file ⟨.isAFolder, path⟩)) ∧
    (∀ flaw, flaw ≠ .missing → files.entryAt path = .error flaw →
      report.PassesOn (.file ⟨flaw, path⟩)) ∧
    ∀ bytes fault, files.entryAt path = .ok (.file bytes) →
      Utf8.decode bytes = .error fault → report.PassesOn (.encoding fault) := by
  intro path report
  refine ⟨?_, ?_, fun bytes s hfile hbytes => ⟨fun t ht => ?_, fun e he => ?_⟩, fun hmissing => ?_,
    fun hfolder => ?_, fun flaw hne hflaw => ?_, fun bytes fault hfile hbytes => ?_⟩
  · rintro rfl
    rfl
  · rintro file words rfl
    exact ⟨rfl, Path.oneLine_text_ofText_iff⟩
  · have hload := load_of_decoded hfile hbytes
    rw [ht] at hload
    exact succeeds_of_load hargs hload
  · have hload := load_of_decoded hfile hbytes
    rw [he] at hload
    exact complains_of_load hargs hload (.inl ⟨e, rfl⟩) (FormatError.oneLine_message he)
  · exact complains_of_load hargs (load_of_flaw hmissing) (.inr ⟨path, rfl⟩)
      (FileFault.oneLine_message ⟨.missing, path⟩)
  · exact passesOn_of_load hargs (load_of_folder hfolder) (by simp [Service.IsReported])
  · exact passesOn_of_load hargs (load_of_flaw hflaw) (by simpa [Service.IsReported] using hne)
  · exact passesOn_of_load hargs (load_of_broken hfile hbytes) (by simp [Service.IsReported])

/-- A table, a stage that is left open, a byte that begins no character, a folder, a missing
file whose name is two lines, and no arguments where the check's own file is missing. -/
theorem outcome_of_check_six_calls :
    let i : Invocation := ⟨['c'], ['r'], ⟨0, [['u']]⟩⟩
    let good : Text := "\x7b \"A\", 0, 0, \x7b\x7d,\n\x7b\"s\",1\x7d\x7d;".toList
    let bad : Text := "\x7b \"A\", 0, 0, \x7b\x7d,".toList
    let files : FileTree :=
      ⟨[], [([['g']], .file (Utf8.encode good)), ([['b']], .file (Utf8.encode bad)),
        ([['x']], .file [0xFF]), ([['d']], .folder)]⟩
    let e : FormatError := ⟨.unterminatedStage ['A'], none, none⟩
    (run i files ["g".toList, "casas".toList]).Succeeds ∧
      (run i files ["./b".toList]).Complains "b".toList e.message ∧
      (run i files ["x".toList]).PassesOn (.encoding ⟨0, 1, 0xFF, .badStart⟩) ∧
      (run i files ["d/".toList]).PassesOn (.file ⟨.isAFolder, ⟨0, [['d']]⟩⟩) ∧
      (run i files ["m\nn".toList]).Complains "m\nn".toList
        "[Errno 2] No such file or directory: 'm\\nn'".toList ∧
      ¬(Path.ofText "m\nn".toList).text.OneLine ∧
      (run i files []).Complains "u".toList "[Errno 2] No such file or directory: 'u'".toList := by
  intro i good bad files e
  have hgood : Utf8.decode (Utf8.encode good) = .ok good := Utf8.decode_encode good
  have hbad : Utf8.decode (Utf8.encode bad) = .ok bad := Utf8.decode_encode bad
  have htable : Table.parse good = .ok [⟨['A'], 0, false, [], [⟨['s'], 1, [], []⟩]⟩] := by rfl
  have hfault : Table.parse bad = .error (.format e) := by rfl
  obtain ⟨-, -, hg, -⟩ := outcome_of_check i files ["g".toList, "casas".toList] (by decide)
  obtain ⟨-, -, hb, -⟩ := outcome_of_check i files ["./b".toList] (by decide)
  obtain ⟨-, -, -, -, -, -, hx⟩ := outcome_of_check i files ["x".toList] (by decide)
  obtain ⟨-, -, -, -, hd, -⟩ := outcome_of_check i files ["d/".toList] (by decide)
  obtain ⟨-, hname, -, hm, -⟩ := outcome_of_check i files ["m\nn".toList] (by decide)
  obtain ⟨-, -, -, hu, -⟩ := outcome_of_check i files [] rfl
  obtain ⟨-, hline⟩ := hname _ _ rfl
  have hmessage : FileFault.message ⟨.missing, Path.ofText "m\nn".toList⟩ =
      "[Errno 2] No such file or directory: 'm\\nn'".toList := by decide +kernel
  have hown : FileFault.message ⟨.missing, ⟨0, [['u']]⟩⟩ =
      "[Errno 2] No such file or directory: 'u'".toList := by decide +kernel
  have htwo : ¬Text.OneLine "m\nn".toList := by decide
  exact ⟨(hg _ good (by rfl) hgood).1 _ htable, (hb _ bad (by rfl) hbad).2 e hfault,
    hx [0xFF] _ (by rfl) (by rfl), hd (by rfl), hmessage ▸ hm (by rfl), fun h => htwo (hline.1 h),
    hown ▸ hu (by rfl)⟩

/-- **Not every fault of loading is reported**: a folder in the place of the file is passed
on, without a status and without a message. -/
theorem not_every_fault_reported :
    ¬∀ (i : Invocation) (files : FileTree) (args : List Text), asksForHelp args = false →
      ∀ fault, (load files (fileAndWords i args).1).result = .error fault →
        (run i files args).Complains (fileAndWords i args).1.text fault.message := by
  intro h
  let i : Invocation := ⟨['c'], ['r'], ⟨0, [['u']]⟩⟩
  let files : FileTree := ⟨[], [([['d']], .folder)]⟩
  have hload : (load files (fileAndWords i [['d']]).1).result =
      .error (.file ⟨.isAFolder, ⟨0, [['d']]⟩⟩) := by rfl
  have hstatus := (h i files [['d']] rfl _ hload).status
  have hpassed : (run i files [['d']]).status = .error (.file ⟨.isAFolder, ⟨0, [['d']]⟩⟩) := by rfl
  rw [hpassed] at hstatus
  exact absurd hstatus (by simp)

end Check

end Desinence
