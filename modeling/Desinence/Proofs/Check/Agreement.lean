/-
The check and the service agree.

Each of the two makes its stemmer by itself. The check always removes accents, the service
does as its environment says; and the check stems a word as a whole, where the service takes
a text apart at its spaces. But a word without a space is one piece, and an environment that
says nothing about accents has them removed. So what the service answers for a word, in any
run on the same file and whatever else it is asked, is the stem that the check prints
(`stems_of_load`).

In front of the stems the check prints its summary. That has one row for each stage in
their order, because the names and conditions of a table that was read are single lines.
-/
import Desinence.Proofs.Check

set_option autoImplicit false

namespace Desinence

/-- **An environment for a file**: the file is that of the table, and nothing is said about
accents. -/
structure Environment.IsForFile (env : Environment) (file : Text) : Prop where
  file : env.get? "RSLP_RULES_PATH" = some file
  accents : env.get? "RSLP_REMOVE_ACCENTS" = none

namespace Service

variable {files : FileTree} {file word stem : Text} {table : Table}

/-! ## The stem of a word -/

/-- **The stem that the service gives for a word**, with the table of a file: the word can be
asked for, and whenever it is, with other requests before and after, the response is this. -/
structure Stems (files : FileTree) (file word stem : Text) : Prop where
  askable : ∃ q : Request, q.IsFor "POST" .stem ∧ Asks q.body word
  answered : ∀ (env : Environment) (usual : Path), env.IsForFile file →
    ∀ (requests : List Request) (k : Nat) (q : Request), requests[k]? = some q →
      q.IsFor "POST" .stem → Asks q.body word →
      let whole := run files (Settings.tableFile usual env) (Settings.removesAccents env) requests
      whole.startup = .started ∧ whole.responses[k]? = some (.stemmed word stem)

/-- There is one at most. -/
theorem Stems.unique {stem' : Text} (h : Stems files file word stem)
    (h' : Stems files file word stem') : stem = stem' := by
  have hget : Environment.get? [("RSLP_RULES_PATH".toList, file)] "RSLP_RULES_PATH" =
      some file := by
    rw [Environment.get?, List.lookup_cons_self]
  have henv : Environment.IsForFile [("RSLP_RULES_PATH".toList, file)] file := ⟨hget, rfl⟩
  obtain ⟨q, hpost, hasks⟩ := h.askable
  have hone := (h.answered _ (.ofText file) henv [q] 0 q rfl hpost hasks).2
  have htwo := (h'.answered _ (.ofText file) henv [q] 0 q rfl hpost hasks).2
  exact (Response.stemmed.inj (Option.some.inj (hone.symm.trans htwo))).2

/-- A word without a space is one piece. -/
theorem stemText_of_not_mem (s : Stemmer) (h : ' ' ∉ word) :
    Text.joinWith [' '] ((word.splitAt ' ').map s.stem) = s.stem word := by
  have hpiece : (Text.joinWith [' '] [word]).splitAt ' ' = [word] :=
    Text.splitAt_joinWith (List.cons_ne_nil _ _) fun p hp => List.mem_singleton.1 hp ▸ h
  rw [Text.joinWith] at hpiece
  rw [hpiece]
  rfl

/-- **With a table the service gives the stem without accents.** -/
theorem stems_of_load (hload : (load files (.ofText file)).result = .ok table)
    (hne : word ≠ []) (hspace : ' ' ∉ word) :
    Stems files file word ((Stemmer.mk table true).stem word) := by
  constructor
  · obtain ⟨body, -, hasks⟩ := exists_asks hne
    have hmethod : Text.upper "POST".toList = "POST".toList := by decide +kernel
    have hroute : routeOf? (RequestPath.ofAddress "/stem".toList) = some .stem := by
      decide +kernel
    exact ⟨⟨"POST".toList, "/stem".toList, body⟩, ⟨hmethod, hroute⟩, hasks⟩
  · intro env usual henv requests k q hq hpost hasks
    have hpath : Settings.tableFile usual env = .ofText file := by
      rw [Settings.tableFile, henv.file]
    have haccents : Settings.removesAccents env = true :=
      (Settings.removesAccents_iff env).2 (.inl henv.accents)
    have hresponse := ((serves_answer ⟨table, true⟩ q).stems word hpost hasks).2
    rw [stemText_of_not_mem _ hspace] at hresponse
    rw [hpath, haccents, run_of_ok hload]
    refine ⟨rfl, ?_⟩
    dsimp only
    rw [List.getElem?_map, hq, Option.map_some, hresponse]

end Service

/-! ## The summary -/

/-- A table that loads was read from a text. -/
theorem exists_parse_of_load {files : FileTree} {path : Path} {table : Table}
    (h : (load files path).result = .ok table) : ∃ s, Table.parse s = .ok table := by
  cases htext : textAt files path with
  | error fault =>
    rw [load_of_text_eq_error htext] at h
    exact absurd h (by simp)
  | ok s =>
    rw [(load_of_text htext).1] at h
    cases hparse : Table.parse s with
    | error fault =>
      rw [hparse] at h
      exact absurd h (by simp [Except.mapError])
    | ok t =>
      rw [hparse] at h
      exact ⟨s, hparse.trans (congrArg Except.ok (Except.ok.inj h))⟩

namespace Check

/-- **A row that tells of a stage**: its name, its minimum, its mode and the number of its
rules, with blanks between them, and its conditions, if it has any. -/
structure RowTells (row : Text) (s : Stage) : Prop where
  oneLine : row.OneLine
  cells : ∃ a b c cell, row = s.name ++ List.replicate (a + 1) ' ' ++ Text.ofNat s.minWord ++
      List.replicate (b + 1) ' ' ++ (if s.wholeWord then "yes".toList else "no".toList) ++
      List.replicate (c + 1) ' ' ++ Text.ofNat s.rules.length ++ "  ".toList ++ cell ∧
    (s.conditions = [] → cell = ['-']) ∧
    (s.conditions ≠ [] → cell = Text.joinWith ", ".toList s.conditions)

theorem conditionsCell_of_nil {s : Stage} (h : s.conditions = []) : conditionsCell s = ['-'] := by
  rw [conditionsCell, h]
  rfl

/-- The conditions of a well-formed stage are not empty, so that there is no dash for them. -/
theorem conditionsCell_of_ne_nil {s : Stage} (hs : s.WellFormed) (h : s.conditions ≠ []) :
    conditionsCell s = Text.joinWith ", ".toList s.conditions := by
  obtain ⟨c, hc⟩ := List.exists_mem_of_ne_nil _ h
  have hjoined : Text.joinWith ", ".toList s.conditions ≠ [] := by
    intro hnil
    have hinfix : c <:+: Text.joinWith ", ".toList s.conditions := Text.isInfix_joinWith hc
    rw [hnil] at hinfix
    exact (hs.conditions c hc).2.1 (List.infix_nil.1 hinfix)
  rw [conditionsCell, if_neg (by simpa using hjoined)]

theorem oneLine_conditionsCell {s : Stage} (hs : s.WellFormed) : (conditionsCell s).OneLine := by
  by_cases h : s.conditions = []
  · rw [conditionsCell_of_nil h]
    decide
  · rw [conditionsCell_of_ne_nil hs h]
    intro d hd
    obtain hsep | ⟨c, hc, hd⟩ := Text.mem_joinWith hd
    · have hcomma : Text.OneLine ", ".toList := by decide
      exact hcomma d hsep
    · exact (hs.conditions c hc).1.2 d hd

/-- Blanks behind a cell, between two cells, and in front of the next. -/
theorem blanks_append (a b : Nat) (t : Text) :
    List.replicate a ' ' ++ ' ' :: (List.replicate b ' ' ++ t) =
      List.replicate (a + b + 1) ' ' ++ t := by
  rw [← List.cons_append, ← List.replicate_succ, ← List.append_assoc,
    List.replicate_append_replicate, Nat.add_assoc]

/-- What stands between the cells of a row are blanks. -/
theorem exists_stageRow_eq (s : Stage) : ∃ a b c, stageRow s =
    s.name ++ List.replicate (a + 1) ' ' ++ Text.ofNat s.minWord ++ List.replicate (b + 1) ' ' ++
      (if s.wholeWord then "yes".toList else "no".toList) ++ List.replicate (c + 1) ' ' ++
      Text.ofNat s.rules.length ++ "  ".toList ++ conditionsCell s := by
  let mode := if s.wholeWord then "yes".toList else "no".toList
  refine ⟨16 - s.name.length + (7 - (Text.ofNat s.minWord).length),
    0 + (10 - mode.length), 0 + (6 - (Text.ofNat s.rules.length).length), ?_⟩
  rw [stageRow]
  simp only [Text.padRight, Text.padLeft, List.append_assoc, ← blanks_append,
    List.replicate_zero, List.singleton_append, List.nil_append]
  rfl

/-- **The row of a stage tells of it.** -/
theorem rowTells_stageRow {s : Stage} (hs : s.WellFormed) : RowTells (stageRow s) s := by
  obtain ⟨a, b, c, hrow⟩ := exists_stageRow_eq s
  refine ⟨?_, a, b, c, conditionsCell s, hrow, conditionsCell_of_nil, conditionsCell_of_ne_nil hs⟩
  have hblanks : ∀ n, Text.OneLine (List.replicate n ' ') := Text.oneLine_replicate (by decide)
  have hmode : Text.OneLine (if s.wholeWord then "yes".toList else "no".toList) := by
    split <;> decide
  have hgap : Text.OneLine "  ".toList := by decide
  rw [hrow]
  exact ((((((((hs.name.2.append (hblanks _)).append (Text.oneLine_ofNat _)).append
    (hblanks _)).append hmode).append (hblanks _)).append (Text.oneLine_ofNat _)).append
      hgap).append (oneLine_conditionsCell hs))

/-- **The lines of the summary**: a row for each stage, between a head and a foot. -/
theorem lines_printed_summary {table : Table} (h : table.WellFormed) :
    Text.lines (printed (summary table)) =
      [List.replicate 80 '=', headRow, List.replicate 80 '-'] ++ table.map stageRow ++
        [List.replicate 80 '='] := by
  refine Text.lines_ofLines fun l hl => ?_
  have hdouble : Text.OneLine (List.replicate 80 '=') := Text.oneLine_replicate (by decide) 80
  have hhead : ∀ m ∈ [List.replicate 80 '=', headRow, List.replicate 80 '-'], Text.OneLine m := by
    intro m hm
    rw [List.mem_cons, List.mem_cons, List.mem_singleton] at hm
    obtain rfl | rfl | rfl := hm
    · exact hdouble
    · decide
    · exact Text.oneLine_replicate (by decide) 80
  rw [summary, List.mem_append, List.mem_append, List.mem_singleton] at hl
  obtain (hl | hl) | rfl := hl
  · exact hhead l hl
  · obtain ⟨s, hs, rfl⟩ := List.mem_map.1 hl
    exact (rowTells_stageRow (h s hs)).oneLine
  · exact hdouble

/-! ## The whole check -/

variable {i : Invocation} {files : FileTree} {file : Text} {table : Table}

/-- **The check agrees with the service.** Called with a file that loads and any words without
spaces, the check has status 0 and no errors. It prints a summary, which is the same
whatever the words and has one row for each stage in their order; and behind that, for each
word in order, the word and the one stem that the service gives for it when it runs on the
same file with nothing said about accents. -/
theorem agrees_with_service (hfile : file ≠ "-h".toList ∧ file ≠ "--help".toList)
    (hload : (load files (.ofText file)).result = .ok table) :
    ∃ (shown : Text) (rows : List Text),
      shown.lines = [List.replicate 80 '=', headRow, List.replicate 80 '-'] ++ rows ++
        [List.replicate 80 '='] ∧
      List.Forall₂ RowTells rows table ∧
      ∀ words : List Text, (∀ w ∈ words, w ≠ [] ∧ ' ' ∉ w) →
        ∃ stems : List Text,
          (∀ given, List.Forall₂ (Service.Stems files file) words given ↔ given = stems) ∧
          run i files (file :: words) =
            ⟨shown ++ printed
              (List.zipWith (fun w s => "  ".toList ++ w ++ " → ".toList ++ s) words stems),
              [], .ok 0⟩ := by
  obtain ⟨source, hparse⟩ := exists_parse_of_load hload
  have htable := Table.wellFormed_of_parse hparse
  refine ⟨printed (summary table), table.map stageRow, lines_printed_summary htable, ?_, ?_⟩
  · exact List.forall₂_map_left_iff.2
      (List.forall₂_same.2 fun s hs => rowTells_stageRow (htable s hs))
  intro words hwords
  have hstems : List.Forall₂ (Service.Stems files file) words
      (words.map (Stemmer.mk table true).stem) :=
    List.forall₂_map_right_iff.2 (List.forall₂_same.2 fun w hw =>
      Service.stems_of_load hload (hwords w hw).1 (hwords w hw).2)
  refine ⟨words.map (Stemmer.mk table true).stem, fun given => ⟨fun hgiven => ?_, ?_⟩, ?_⟩
  · exact Relator.RightUnique.forall₂ (fun _ _ _ h h' => h.unique h') hgiven hstems
  · rintro rfl
    exact hstems
  · have hhelp : asksForHelp (file :: words) = false := by
      simpa [asksForHelp] using hfile
    have hlines : words.map (sampleLine table) = List.zipWith
        (fun w s => "  ".toList ++ w ++ " → ".toList ++ s) words
          (words.map (Stemmer.mk table true).stem) := by
      rw [List.zipWith_map_right, List.zipWith_self]
      rfl
    simp only [run, hhelp, fileAndWords, hload]
    rw [← hlines, printed, printed, printed, List.flatMap_append]
    rfl

/-- A table of one stage, and two words with marks and capitals. -/
theorem agrees_with_service_two_words :
    let i : Invocation := ⟨['c'], ['r'], ⟨0, [['u']]⟩⟩
    let stage : Stage := ⟨['A'], 0, false, ["o".toList, "s".toList], [⟨['s'], 1, [], []⟩]⟩
    let content : Text := "\x7b \"A\", 0, 0, \x7b\"o\",\"s\"\x7d,\n\x7b\"s\",1\x7d\x7d;".toList
    let files : FileTree := ⟨[], [([['r']], .file (Utf8.encode content))]⟩
    (load files (.ofText ['r'])).result = .ok [stage] ∧
      Service.Stems files ['r'] "Cães".toList "cae".toList ∧
      Service.Stems files ['r'] "Ótimos".toList "otimo".toList ∧
      ∃ shown row, RowTells row stage ∧
        Text.lines shown = [List.replicate 80 '=', headRow, List.replicate 80 '-', row,
          List.replicate 80 '='] ∧
        run i files [['r'], "Cães".toList, "Ótimos".toList] =
          ⟨shown ++ "  Cães → cae\n  Ótimos → otimo\n".toList, [], .ok 0⟩ := by
  intro i stage content files
  have hload : (load files (.ofText ['r'])).result = .ok [stage] := by decide +kernel
  have hcae : Stemmer.stem ⟨[stage], true⟩ "Cães".toList = "cae".toList := by decide +kernel
  have hotimo : Stemmer.stem ⟨[stage], true⟩ "Ótimos".toList = "otimo".toList := by decide +kernel
  have hone : Service.Stems files ['r'] "Cães".toList "cae".toList :=
    hcae ▸ Service.stems_of_load hload (by decide) (by decide)
  have htwo : Service.Stems files ['r'] "Ótimos".toList "otimo".toList :=
    hotimo ▸ Service.stems_of_load hload (by decide) (by decide)
  obtain ⟨shown, rows, hlines, hrows, hwords⟩ :=
    agrees_with_service (i := i) ⟨by decide, by decide⟩ hload
  obtain ⟨stems, hstems, hrun⟩ := hwords ["Cães".toList, "Ótimos".toList] (by decide)
  obtain rfl := (hstems _).1 (.cons hone (.cons htwo .nil))
  obtain ⟨row, rest, hrow, hrest, rfl⟩ := List.forall₂_cons_right_iff.1 hrows
  rw [List.forall₂_nil_right_iff.1 hrest] at hlines
  exact ⟨hload, hone, htwo, shown, row, hrow, hlines, hrun⟩

end Check

end Desinence
