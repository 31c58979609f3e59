/-
Whole runs of the service.

A run starts with loading a table, and whether that succeeds decides the rest. If
it fails, the fault is what leaves the start, nothing is bound and nothing
answered. If it succeeds, the stemmer of the table is bound until the service
stops, and requests are answered under it one by one. The log has what loading
reports, what the service says of itself, and what the answers leave; only the
last of these tells of stemmed texts.
-/
import Mathlib.Data.List.Forall2
import Desinence.Proofs.Service.Serving

set_option autoImplicit false

namespace Desinence

/-! ## The environment -/

/-- The table's file is the one that is named, or else the usual one. -/
theorem Settings.tableFile_eq (usual : Path) (env : Environment) :
    tableFile usual env = (env.get? "RSLP_RULES_PATH").elim usual Path.ofText := by
  rw [tableFile]
  cases env.get? "RSLP_RULES_PATH" <;> rfl

/-- Accents are removed if nothing is said about them, or the word for yes. -/
theorem Settings.removesAccents_iff (env : Environment) :
    removesAccents env = true ↔ env.get? "RSLP_REMOVE_ACCENTS" = none ∨
      ∃ word, env.get? "RSLP_REMOVE_ACCENTS" = some word ∧ word.lower = "true".toList := by
  rw [removesAccents]
  cases env.get? "RSLP_REMOVE_ACCENTS" with
  | none => simp
  | some word => simp

/-! ## The log of loading -/

section Loading

variable {files : FileTree} {path : Path} {r : LogRecord}

/-- Loading reports stages and tables, and nothing else. -/
theorem record_of_mem_load_log (h : r ∈ (load files path).log) :
    (∃ stage, r = stageRecord stage) ∨ ∃ t, r = tableRecord path t := by
  rw [load] at h
  cases htext : textAt files path with
  | error fault =>
    simp only [htext] at h
    exact absurd h List.not_mem_nil
  | ok text =>
    simp only [htext] at h
    cases hfault : (Table.reading text).fault with
    | some fault =>
      simp only [hfault] at h
      obtain ⟨stage, -, rfl⟩ := List.mem_map.1 h
      exact .inl ⟨stage, rfl⟩
    | none =>
      simp only [hfault, List.mem_append, List.mem_singleton] at h
      obtain hstage | htable := h
      · obtain ⟨stage, -, rfl⟩ := List.mem_map.1 hstage
        exact .inl ⟨stage, rfl⟩
      · exact .inr ⟨_, htable⟩

/-- No report of loading is about an error or a stemmed text. -/
theorem of_mem_load_log (h : r ∈ (load files path).log) :
    r.level ≠ Level.error ∧ r.isStemming = false := by
  obtain ⟨stage, rfl⟩ | ⟨t, rfl⟩ := record_of_mem_load_log h
  · exact ⟨(by decide : Level.debug ≠ Level.error), rfl⟩
  · exact ⟨(by decide : Level.info ≠ Level.error), rfl⟩

end Loading

namespace Service

variable {files : FileTree} {path : Path} {removeAccents : Bool}

/-! ## Start and stop -/

/-- What is logged from the start to the end of loading. -/
def loadingRecords (files : FileTree) (path : Path) : List LogRecord :=
  record Level.info ("Loading RSLP rules from ".toList ++ path.text ++ "...".toList) ::
    (load files path).log

/-- What is logged from the start to the first request. -/
def startRecords (files : FileTree) (path : Path) : List LogRecord :=
  loadingRecords files path ++ [record Level.info "RSLP stemmer initialized successfully".toList]

/-- **A run without a table** ends where it starts. -/
theorem run_of_error {fault : LoadFault} (h : (load files path).result = .error fault)
    (requests : List Request) :
    run files path removeAccents requests =
      ⟨.failed fault, [], ⟨none, loadingRecords files path ++ faultRecords path fault⟩⟩ := by
  simp only [run, State.start, h]
  rfl

/-- **A run with a table**, from its start to its stop. -/
theorem run_of_ok {table : Table} (h : (load files path).result = .ok table)
    (requests : List Request) :
    run files path removeAccents requests =
      ⟨.started, requests.map fun q => (answer (some ⟨table, removeAccents⟩) q).1,
        ⟨none, startRecords files path ++
          (requests.flatMap fun q => (answer (some ⟨table, removeAccents⟩) q).2) ++
            [record Level.info "Shutting down...".toList]⟩⟩ := by
  simp only [run, State.start, h, State.serveAll_eq]
  rfl

/-! ## Errors in the log -/

/-- A fault that the log reports as an error: the table's format is wrong, or its
file is missing. -/
def IsReported (fault : LoadFault) : Prop :=
  (∃ e, fault = .table (.format e)) ∨ ∃ path, fault = .file ⟨.missing, path⟩

theorem isFormatError_iff {fault : LoadFault} :
    fault.isFormatError = true ↔ ∃ e, fault = .table (.format e) := by
  rw [LoadFault.isFormatError.eq_def]
  split <;> simp_all

theorem isMissingFile_iff {fault : LoadFault} :
    fault.isMissingFile = true ↔ ∃ path, fault = .file ⟨.missing, path⟩ := by
  rw [LoadFault.isMissingFile.eq_def]
  split <;> simp_all

/-- **Just those faults are reported as errors.** -/
theorem exists_error_faultRecords_iff (path : Path) {fault : LoadFault} :
    (∃ r ∈ faultRecords path fault, r.level = Level.error) ↔ IsReported fault := by
  rw [faultRecords, IsReported, ← isFormatError_iff, ← isMissingFile_iff]
  cases fault.isFormatError with
  | true => simp [record]
  | false =>
    cases fault.isMissingFile with
    | true => simp [record]
    | false => simp

/-- Until the table is loaded nothing is an error. -/
theorem level_of_mem_loadingRecords {r : LogRecord} (h : r ∈ loadingRecords files path) :
    r.level ≠ Level.error := by
  rw [loadingRecords, List.mem_cons] at h
  obtain rfl | h := h
  · exact (by decide : Level.info ≠ Level.error)
  · exact (of_mem_load_log h).1

/-- **The log of a run without a table** has an error exactly if its fault is one that
is reported as such. -/
theorem exists_error_run_iff {fault : LoadFault} (h : (load files path).result = .error fault)
    (requests : List Request) :
    (∃ r ∈ (run files path removeAccents requests).final.log, r.level = Level.error) ↔
      IsReported fault := by
  rw [run_of_error h, ← exists_error_faultRecords_iff path]
  constructor
  · rintro ⟨r, hr, hlevel⟩
    obtain hr | hr := List.mem_append.1 hr
    · exact absurd hlevel (level_of_mem_loadingRecords hr)
    · exact ⟨r, hr, hlevel⟩
  · rintro ⟨r, hr, hlevel⟩
    exact ⟨r, List.mem_append_right _ hr, hlevel⟩

/-! ## Stemmed texts in the log -/

/-- Starting stems nothing. -/
theorem filter_isStemming_startRecords (files : FileTree) (path : Path) :
    (startRecords files path).filter LogRecord.isStemming = [] := by
  rw [List.filter_eq_nil_iff]
  intro r hr hstemming
  -- A record of the start is the first, one of loading, or the last.
  rw [startRecords, loadingRecords, List.mem_append, List.mem_cons, List.mem_singleton] at hr
  obtain (rfl | hload) | rfl := hr
  · exact Bool.false_ne_true hstemming
  · rw [(of_mem_load_log hload).2] at hstemming
    exact Bool.false_ne_true hstemming
  · exact Bool.false_ne_true hstemming

/-- **The log of a run with a table** tells of the stemmed texts in the order of the
responses, and of no others. -/
theorem filter_isStemming_run {table : Table} (h : (load files path).result = .ok table)
    (requests : List Request) :
    (run files path removeAccents requests).final.log.filter LogRecord.isStemming =
      (run files path removeAccents requests).responses.filterMap Response.record? := by
  rw [run_of_ok h]
  dsimp only
  rw [List.filter_append, List.filter_append, filter_isStemming_startRecords,
    filter_isStemming_answers, List.nil_append]
  exact List.append_nil _

/-! ## Runs -/

/-- **Whole runs.** In any environment, over any files and for any requests, the
service starts exactly if the table loads that the environment names. If it does
not load, its fault leaves the start, nothing is answered or bound, and the log has
an error if the fault is one of the table's format or that its file is missing. If
it loads, every request gets what it should from the stemmer of the table, which
removes accents as the environment has it; the log tells of the stemmed texts as
the responses do, one by one; and nothing is bound at the end. Any text but the
empty one can be asked for. -/
theorem run_in_environment (files : FileTree) (usual : Path) (env : Environment)
    (requests : List Request) :
    let path := Settings.tableFile usual env
    let loaded := (load files path).result
    let whole := run files path (Settings.removesAccents env) requests
    (whole.startup = .started ↔ ∃ table, loaded = .ok table) ∧
    (∀ fault, loaded = .error fault →
      whole.startup = .failed fault ∧ whole.responses = [] ∧ whole.final.bound = none ∧
        ((∃ r ∈ whole.final.log, r.level = Level.error) ↔ IsReported fault)) ∧
    (∀ table, loaded = .ok table →
      let s : Stemmer := ⟨table, Settings.removesAccents env⟩
      List.Forall₂ (Serves s) requests whole.responses ∧
        whole.final.log.filter LogRecord.isStemming = whole.responses.filterMap Response.record? ∧
        whole.final.bound = none) ∧
    (Settings.removesAccents env = true ↔ env.get? "RSLP_REMOVE_ACCENTS" = none ∨
      ∃ word, env.get? "RSLP_REMOVE_ACCENTS" = some word ∧ word.lower = "true".toList) ∧
    path = (env.get? "RSLP_RULES_PATH").elim usual Path.ofText ∧
    ∀ text : Text, text ≠ [] →
      ∃ body : Text, Json.write (askingFor text) = some body.glyphs ∧ Asks body text := by
  intro path loaded whole
  refine ⟨?_, ?_, ?_, Settings.removesAccents_iff env, Settings.tableFile_eq usual env,
    fun _ => exists_asks⟩
  · cases hload : loaded with
    | error fault =>
      have hwhole : whole = _ := run_of_error hload requests
      simp [hwhole]
    | ok table =>
      have hwhole : whole = _ := run_of_ok hload requests
      simp [hwhole]
  · intro fault hload
    have hwhole : whole = _ := run_of_error hload requests
    refine ⟨?_, ?_, ?_, exists_error_run_iff hload requests⟩
    all_goals rw [hwhole]
  · intro table hload s
    have hwhole : whole = _ := run_of_ok hload requests
    refine ⟨?_, filter_isStemming_run hload requests, ?_⟩
    · rw [hwhole]
      exact List.forall₂_map_right_iff.2 (List.forall₂_same.2 fun q _ => serves_answer s q)
    · rw [hwhole]

/-- A table from a file, accents removed by a word in capitals, and two requests: one
that asks for a text by an escape, and one for the state of health. -/
theorem run_in_environment_two_requests :
    let stage : Stage := ⟨['A'], 0, false, [], [⟨['s'], 1, [], []⟩]⟩
    let content : Text := "\x7b \"A\", 0, 0, \x7b\x7d,\n\x7b\"s\",1\x7d\x7d;".toList
    let files : FileTree := ⟨[], [([['r']], .file (Utf8.encode content))]⟩
    let env : Environment :=
      [("RSLP_RULES_PATH".toList, ['r']), ("RSLP_REMOVE_ACCENTS".toList, "TRUE".toList)]
    let path := Settings.tableFile ⟨0, [['u']]⟩ env
    let asking : Request :=
      ⟨"POST".toList, "/stem".toList, "\x7b\"text\":\"C\\u00e3es  S\"\x7d".toList⟩
    let health : Request := ⟨"GET".toList, "/health".toList, []⟩
    let whole := run files path (Settings.removesAccents env) [asking, health]
    (load files path).result = .ok [stage] ∧ Settings.removesAccents env = true ∧
      asking.IsFor "POST" .stem ∧ Asks asking.body "Cães  S".toList ∧
      health.IsFor "GET" .health ∧ whole.startup = .started ∧
      whole.responses = [.stemmed "Cães  S".toList "cae  s".toList, .health 1] ∧
      whole.final.log.filter LogRecord.isStemming =
        [stemmedRecord "Cães  S".toList "cae  s".toList] ∧
      whole.final.bound = none := by
  intro stage content files env path asking health whole
  have hload : (load files path).result = .ok [stage] := by decide +kernel
  have haccents : Settings.removesAccents env = true := by decide +kernel
  have hpost : asking.IsFor "POST" .stem := by decide +kernel
  have hget : health.IsFor "GET" .health := by decide +kernel
  have hasks : Asks asking.body "Cães  S".toList := by decide +kernel
  have hstem : Stemmer.stemText ⟨[stage], Settings.removesAccents env⟩ "Cães  S".toList =
      "cae  s".toList := by decide +kernel
  obtain ⟨hstart, -, hserved, -⟩ :=
    run_in_environment files ⟨0, [['u']]⟩ env [asking, health]
  obtain ⟨hserves, hlog, hbound⟩ := hserved [stage] hload
  obtain ⟨first, rest, hfirst, hforall, hresponses⟩ := List.forall₂_cons_left_iff.1 hserves
  obtain ⟨second, rest', hsecond, hrest', hrest⟩ := List.forall₂_cons_left_iff.1 hforall
  have hone : first = .stemmed "Cães  S".toList "cae  s".toList :=
    (hfirst.stems _ hpost hasks).2.trans (congrArg (Response.stemmed _) hstem)
  have htwo : second = .health 1 := (hsecond.health hget).2
  rw [hone, hrest, htwo, List.forall₂_nil_left_iff.1 hrest'] at hresponses
  rw [hresponses] at hlog
  -- The run stands under its name in the statement only; nothing evaluates it.
  dsimp only [whole, path]
  exact ⟨hload, haccents, hpost, hasks, hget, hstart.2 ⟨_, hload⟩, hresponses, hlog, hbound⟩

end Service

end Desinence
