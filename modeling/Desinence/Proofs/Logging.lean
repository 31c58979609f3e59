/-
Setting logging up, once and launch after launch.

Setting up makes the folder of the log, cleans it up and writes to the new log, and of
these only the last can still fail once the folder is there: when no file can have the
path of the log. Otherwise the folder has the logs of the first `keep` times
afterwards, the new one among them (`Launch.leaves_of_setup`).

Taking the first of a list again and again is taking the first of all that was ever put
in front of it. So after any number of launches the folder has the logs of the first
`keep` of all times so far, and what does not fit their pattern is as it was at the
beginning (`retention_over_launches`).
-/
import Desinence.Logging
import Desinence.Proofs.SessionLog.Retention

set_option autoImplicit false

namespace Desinence

namespace Logging

open SessionLog

variable {base : Path} {folder loc : Location} {times : List Timestamp} {keep : Nat}
  {t t' : FileTree}

/-! ## Opening a session log -/

/-- A message goes to the session log, or to no file. -/
theorem exists_write {s : State} (hlocate : s.files.locate s.sessionLog = .ok loc)
    (hfile : s.files.HasFile loc) (m : Message) :
    ∃ s', write s m = .ok s' ∧ s'.sessionLog = s.sessionLog ∧
      s.files.WritesFile loc s'.files := by
  have hsame := FileTree.WritesFile.refl hfile
  rw [write]
  split
  · exact ⟨s, rfl, rfl, hsame⟩
  · dsimp only
    split
    · obtain ⟨files, happend, hwrites⟩ :=
        FileTree.exists_append hlocate hfile.get?_ne_folder (Utf8.encode (fileLine m))
      rw [happend]
      exact ⟨_, rfl, rfl, hwrites⟩
    · exact ⟨_, rfl, rfl, hsame⟩

/-- **A session log can be opened** where its path leads, unless there is a folder. -/
theorem exists_openLog {o : Options} {start : Timestamp} (console : Text)
    (hlocate : t.locate (pathOf (.ofText o.logFile) start) = .ok loc)
    (hloc : t.get? loc ≠ some .folder) :
    ∃ s, openLog o start console t = .ok s ∧
      s.sessionLog = pathOf (.ofText o.logFile) start ∧ t.WritesFile loc s.files := by
  obtain ⟨files, happend, hwrites⟩ := FileTree.exists_append hlocate hloc []
  have hthere := (hwrites.keepsFolders hloc).locate_eq_ok hlocate
  let sessionLog := pathOf (.ofText o.logFile) start
  let opened : State :=
    ⟨o, belowRoot [rootName] ++ belowRoot o.quietLoggers, sessionLog, console, files⟩
  obtain ⟨s, hs, hlog, hannounced⟩ :=
    exists_write (s := opened) hthere hwrites.hasFile (announcement o sessionLog)
  refine ⟨s, ?_, hlog, hwrites.trans hannounced⟩
  rw [openLog, happend]
  exact hs

theorem exists_locate_of_openLog {o : Options} {start : Timestamp} {console : Text} {s : State}
    (h : openLog o start console t = .ok s) :
    ∃ loc, t.locate (pathOf (.ofText o.logFile) start) = .ok loc := by
  simp only [openLog] at h
  split at h
  · exact absurd h (by simp)
  next files happend => exact FileTree.exists_locate_of_append happend

/-! ## One launch -/

/-- **A launch**: what logging is set up with, when, and what the console shows by then. -/
structure Launch where
  options : Options
  start : Timestamp
  console : Text
  deriving Repr, DecidableEq

namespace Launch

variable {l : Launch} {s : State}

/-- A launch for a base, with so many logs to keep and at a time whose year has four
digits. -/
structure IsFor (l : Launch) (base : Path) (keep : Nat) : Prop where
  base_eq : Path.ofText l.options.logFile = base
  keepSessions_eq : l.options.keepSessions = keep
  fourDigits : 10 ^ 3 ≤ l.start.year
  inDigits : l.start.InDigits

/-- **What a launch leaves** where there were logs of some times: its own is the newest,
the first `keep` of all are there, and what does not fit the pattern is unchanged. -/
structure Leaves (l : Launch) (base : Path) (folder : Location) (times : List Timestamp)
    (keep : Nat) (t : FileTree) (s : State) : Prop where
  sessionLog_eq : s.sessionLog = pathOf base l.start
  locate : s.files.locate s.sessionLog = .ok (folder ++ [nameTelling base.stem l.start])
  retains : Retains base folder ((l.start :: times).take keep) s.files
  others : LeavesOthers folder base.stem t s.files

/-- The path of a session log leads into the folder, if a file can have it. -/
theorem IsFor.locate_pathOf_iff (hl : l.IsFor base keep) (h : Retains base folder times t)
    (loc : Location) : t.locate (pathOf base l.start) = .ok loc ↔
      (pathOf base l.start).IsNameable ∧ loc = folder ++ [nameTelling base.stem l.start] := by
  have hname := nameTelling_ne_up base.stem l.start
  rw [← nameOf_eq_nameTelling hl.fourDigits] at hname ⊢
  exact FileTree.locate_child_eq_ok_iff h.locate h.isFolder hname

/-- Once there is a folder, setting up is a cleanup and opening the log. -/
theorem IsFor.setup_eq (hl : l.IsFor base keep) (h : Retains base folder times t)
    (hcleanup : cleanup t base keep = .ok t') :
    setup l.options l.start l.console t = openLog l.options l.start l.console t' := by
  have hfolder : t.isFolder base.parent = true :=
    FileTree.isFolder_iff.2 ⟨folder, h.locate, h.isFolder⟩
  have hroom : makeRoom l.options t = .ok t' := by
    simp only [makeRoom, hl.base_eq, FileTree.makeFolders_of_isFolder hfolder, hl.keepSessions_eq,
      hcleanup]
    rfl
  rw [setup, hroom]

/-- **A launch succeeds** if a file can have the path of its log, and then it leaves the
first `keep` logs. -/
theorem leaves_of_setup (hl : l.IsFor base keep) (h : Retains base folder times t)
    (hliteral : Glob.IsLiteral base.stem) (hkeep : 1 ≤ keep)
    (hlater : ∀ u ∈ times, u.IsBefore l.start) :
    ((∃ s, setup l.options l.start l.console t = .ok s) ↔ (pathOf base l.start).IsNameable) ∧
      ∀ s, setup l.options l.start l.console t = .ok s → l.Leaves base folder times keep t s := by
  obtain rfl := hl.base_eq
  obtain ⟨cleaned, hcleanup, hkept, hothers⟩ := h.cleanup hliteral keep
  rw [hl.setup_eq h hcleanup]
  have hplace := hl.locate_pathOf_iff hkept
  have hleaves : (pathOf (.ofText l.options.logFile) l.start).IsNameable → ∃ s,
      openLog l.options l.start l.console cleaned = .ok s ∧
        l.Leaves (.ofText l.options.logFile) folder times keep t s := by
    intro hname
    have hlocate := (hplace _).2 ⟨hname, rfl⟩
    have hfree := hkept.get?_ne_folder (fits_nameTelling hliteral l.start)
    obtain ⟨s, hs, hlog, hwrites⟩ := exists_openLog l.console hlocate hfree
    obtain ⟨hnow, hsame⟩ := hkept.cons hliteral hl.inDigits
      (fun u hu => hlater u (List.mem_of_mem_take hu)) hwrites
    refine ⟨s, hs, hlog, ?_, ?_, hothers.trans hsame⟩
    · rw [hlog]
      exact (hwrites.keepsFolders hfree).locate_eq_ok hlocate
    · -- One of the first `keep` is the new one.
      rwa [List.take_cons hkeep]
  have hname : ∀ s, openLog l.options l.start l.console cleaned = .ok s →
      (pathOf (.ofText l.options.logFile) l.start).IsNameable := by
    intro s hs
    obtain ⟨loc, hlocate⟩ := exists_locate_of_openLog hs
    exact ((hplace loc).1 hlocate).1
  refine ⟨⟨fun ⟨s, hs⟩ => hname s hs, fun hn => ?_⟩, fun s hs => ?_⟩
  · obtain ⟨s, hs, -⟩ := hleaves hn
    exact ⟨s, hs⟩
  · obtain ⟨s', hs', hleft⟩ := hleaves (hname s hs)
    obtain rfl : s' = s := Except.ok.inj (hs'.symm.trans hs)
    exact hleft

end Launch

/-! ## Launch after launch -/

/-- **Sets logging up with one launch after another**, each on the files that the one
before has left. -/
def setupEach : FileTree → List Launch → Except SetupFault (List State)
  | _, [] => .ok []
  | files, l :: rest =>
    match setup l.options l.start l.console files with
    | .error fault => .error fault
    | .ok s => (setupEach s.files rest).map (s :: ·)

theorem setupEach_cons_eq_ok_iff {l : Launch} {rest : List Launch} {states : List State} :
    setupEach t (l :: rest) = .ok states ↔
      ∃ s more, setup l.options l.start l.console t = .ok s ∧
        setupEach s.files rest = .ok more ∧ states = s :: more := by
  rw [setupEach]
  cases hs : setup l.options l.start l.console t with
  | error fault => simp
  | ok s =>
    cases hmore : setupEach s.files rest with
    | error fault => simp [Except.map, hmore]
    | ok more => simp [Except.map, hmore, eq_comm]

/-- The times of the launches before one, the newest first. -/
def startsBefore (launches : List Launch) (i : Nat) : List Timestamp :=
  ((launches.take i).map Launch.start).reverse

/-- The first of a list are the same, however much is cut off behind them. -/
theorem take_append_take {α : Type} (xs ys : List α) (k : Nat) :
    (xs ++ ys.take k).take k = (xs ++ ys).take k := by
  rw [List.take_append, List.take_append, List.take_take, Nat.min_eq_left (Nat.sub_le k _)]

/-- **What each of many launches leaves.** The induction is on the launches; a launch
goes on from the logs that the one before has kept, and what that has removed would not
be among the first any more. -/
theorem leaves_of_setupEach (hliteral : Glob.IsLiteral base.stem) (hkeep : 1 ≤ keep)
    {launches : List Launch} (h : Retains base folder times t)
    (hlaunches : ∀ l ∈ launches, l.IsFor base keep)
    (horder : ((launches.map Launch.start).reverse ++ times).Pairwise
      fun later earlier => earlier.IsBefore later) :
    ((∃ states, setupEach t launches = .ok states) ↔
      ∀ l ∈ launches, (pathOf base l.start).IsNameable) ∧
    ∀ states, setupEach t launches = .ok states → states.length = launches.length ∧
      ∀ (i : Nat) (l : Launch) (s : State), launches[i]? = some l → states[i]? = some s →
        l.Leaves base folder (startsBefore launches i ++ times) keep t s := by
  induction launches generalizing times t with
  | nil =>
    refine ⟨⟨fun _ _ hl => absurd hl List.not_mem_nil, fun _ => ⟨[], rfl⟩⟩, ?_⟩
    rintro states ⟨⟩
    exact ⟨rfl, fun i l s hl => absurd hl (by simp)⟩
  | cons first rest ih =>
    obtain ⟨hfirst, hrest⟩ := List.forall_mem_cons.1 hlaunches
    rw [List.map_cons, List.reverse_cons, List.append_assoc, List.singleton_append] at horder
    have hlater : ∀ u ∈ times, u.IsBefore first.start :=
      (List.pairwise_cons.1 (horder.sublist (List.sublist_append_right _ _))).1
    obtain ⟨hiff, hleaves⟩ := Launch.leaves_of_setup hfirst h hliteral hkeep hlater
    have hnext : ∀ s, setup first.options first.start first.console t = .ok s → _ :=
      fun s hs => ih (hleaves s hs).retains hrest
        (horder.sublist (List.Sublist.append_left (List.take_sublist keep _) _))
    constructor
    · rw [List.forall_mem_cons, ← hiff]
      constructor
      · rintro ⟨states, hstates⟩
        obtain ⟨s, more, hs, hmore, -⟩ := setupEach_cons_eq_ok_iff.1 hstates
        exact ⟨⟨s, hs⟩, (hnext s hs).1.1 ⟨more, hmore⟩⟩
      · rintro ⟨⟨s, hs⟩, hnames⟩
        obtain ⟨more, hmore⟩ := (hnext s hs).1.2 hnames
        exact ⟨_, setupEach_cons_eq_ok_iff.2 ⟨s, more, hs, hmore, rfl⟩⟩
    · intro states hstates
      obtain ⟨s, more, hs, hmore, rfl⟩ := setupEach_cons_eq_ok_iff.1 hstates
      obtain ⟨hlength, hall⟩ := (hnext s hs).2 more hmore
      refine ⟨by rw [List.length_cons, List.length_cons, hlength], fun i l s' hl hs' => ?_⟩
      cases i with
      | zero =>
        obtain rfl := Option.some.inj hl
        obtain rfl := Option.some.inj hs'
        exact hleaves s hs
      | succ i =>
        obtain ⟨hlog, hlocate, hretains, hothers⟩ := hall i l s' hl hs'
        have htimes : startsBefore (first :: rest) (i + 1) ++ times =
            startsBefore rest i ++ first.start :: times := by
          simp [startsBefore]
        refine ⟨hlog, hlocate, ?_, (hleaves s hs).others.trans hothers⟩
        rw [htimes, ← List.cons_append, ← take_append_take]
        exact hretains

/-- Making the folder first makes no difference. -/
theorem setupEach_of_makeFolders {files made : FileTree}
    (hmade : files.makeFolders base.parent = .ok made) {launches : List Launch}
    (hlaunches : ∀ l ∈ launches, l.IsFor base keep) :
    setupEach files launches = setupEach made launches := by
  cases launches with
  | nil => rfl
  | cons l rest =>
    have hbase := (hlaunches l List.mem_cons_self).base_eq
    have hagain := FileTree.makeFolders_of_isFolder (FileTree.GainsFolders.of_makeFolders hmade).2
    have hroom : makeRoom l.options files = makeRoom l.options made := by
      simp only [makeRoom, hbase, hmade, hagain]
    rw [setupEach, setupEach, setup, setup, hroom]

/-- **Retention over many launches.** Let the folder of a base, made if it was missing,
have no other names that fit the pattern than those of regular files that look like
session logs, and let logging be set up again and again for this base, at later and
later times that are all later than the times told by these names. Then there are the
logs of some past times and nothing else that fits. Every launch succeeds if a file can
have the paths of the logs, which no name of the usual length and characters prevents.
After each of them the folder has the logs of the first `keep` of all times up to then,
the newest first, and this is its own; what does not fit the pattern is unchanged, and so
is everything that was there before the folder was made. -/
theorem retention_over_launches {files made : FileTree} {base : Path} {folder : Location}
    {keep : Nat} {launches : List Launch} (hkeyed : files.Keyed)
    (hmade : files.makeFolders base.parent = .ok made)
    (hlocate : made.locate base.parent = .ok folder)
    (hliteral : Glob.IsLiteral base.stem) (hkeep : 1 ≤ keep)
    (hnames : ∀ name, Fits base.stem name → made.get? (folder ++ [name]) ≠ none →
      made.HasFile (folder ++ [name]) ∧ IsNameOf base.stem name)
    (hlaunches : ∀ l ∈ launches, l.IsFor base keep)
    (hascending : (launches.map Launch.start).Pairwise Timestamp.IsBefore)
    (hlater : ∀ u : Timestamp, u.InDigits → made.HasFile (folder ++ [nameTelling base.stem u]) →
      ∀ l ∈ launches, u.IsBefore l.start) :
    files.GainsFolders made ∧
    ∃ past, Retains base folder past made ∧
      ((launches.map Launch.start).reverse ++ past).Pairwise
        (fun later earlier => earlier.IsBefore later) ∧
      ((∃ states, setupEach files launches = .ok states) ↔
        ∀ l ∈ launches, (pathOf base l.start).IsNameable) ∧
      ∀ states, setupEach files launches = .ok states → states.length = launches.length ∧
        ∀ (i : Nat) (l : Launch) (s : State), launches[i]? = some l → states[i]? = some s →
          l.Leaves base folder (startsBefore launches i ++ past) keep made s := by
  obtain ⟨hgains, hroom⟩ := FileTree.GainsFolders.of_makeFolders hmade
  have hfolder : made.get? folder = some .folder := by
    obtain ⟨loc, hloc, hget⟩ := FileTree.isFolder_iff.1 hroom
    rwa [← Except.ok.inj (hlocate.symm.trans hloc)] at hget
  obtain ⟨past, hpast⟩ := exists_retains (hgains.keyed hkeyed) hlocate hfolder hnames
  have horder : ((launches.map Launch.start).reverse ++ past).Pairwise
      (fun later earlier => earlier.IsBefore later) := by
    rw [List.pairwise_append, List.pairwise_reverse]
    refine ⟨hascending, hpast.newestFirst, fun start hstart u hu => ?_⟩
    obtain ⟨l, hl, rfl⟩ := List.mem_map.1 (List.mem_reverse.1 hstart)
    exact hlater u (hpast.inDigits u hu) (hpast.hasFile u hu) l hl
  rw [setupEach_of_makeFolders hmade hlaunches]
  exact ⟨hgains, past, hpast, horder, leaves_of_setupEach hliteral hkeep hpast hlaunches horder⟩

/-- Two launches where there is the log of a past time and another file, and two logs are
to be kept: in the end these are the logs of the launches. -/
theorem retention_over_launches_two :
    let base : Path := .ofText "logs/app.log".toList
    let logs : Location := ["logs".toList]
    let old : Text := "app_20241231_235959.log".toList
    let files : FileTree := ⟨[], [(logs, .folder), (logs ++ [old], .file []),
      (logs ++ ["app.txt".toList], .file [])]⟩
    let options : Options :=
      { Options.standard with logFile := "logs/app.log".toList, keepSessions := 2 }
    let first : Launch := ⟨options, ⟨2025, 1, 1, 0, 0, 0⟩, []⟩
    let second : Launch := ⟨options, ⟨2025, 1, 1, 0, 0, 1⟩, []⟩
    ∃ states s, setupEach files [first, second] = .ok states ∧ states[1]? = some s ∧
      Retains base logs [second.start, first.start] s.files ∧
      s.files.get? (logs ++ [old]) = none ∧
      s.files.get? (logs ++ ["app.txt".toList]) = some (.file []) := by
  intro base logs old files options first second
  have hmade : files.makeFolders base.parent = .ok files :=
    FileTree.makeFolders_of_isFolder (by decide +kernel)
  have hlocate : files.locate base.parent = .ok logs := by decide +kernel
  have hliteral : Glob.IsLiteral base.stem := by decide +kernel
  have hold : old = nameTelling base.stem ⟨2024, 12, 31, 23, 59, 59⟩ := by decide +kernel
  have hother : ¬Fits base.stem "app.txt".toList := by decide +kernel
  -- Of what is in the folder only the log fits.
  have hpresent : ∀ name, Fits base.stem name → files.get? (logs ++ [name]) ≠ none →
      name = old := by
    intro name hfits hget
    rcases FileTree.mem_of_get?_ne_none hget with hmem | habove
    · have hname : name = old ∨ name = "app.txt".toList := by
        simpa [files, logs] using hmem
      exact hname.resolve_right fun h => hother (h ▸ hfits)
    · exact absurd habove (by simp [files, logs])
  have hnames : ∀ name, Fits base.stem name → files.get? (logs ++ [name]) ≠ none →
      files.HasFile (logs ++ [name]) ∧ IsNameOf base.stem name := by
    intro name hfits hget
    obtain rfl := hpresent name hfits hget
    exact ⟨⟨[], rfl⟩, "20241231".toList, "235959".toList, by decide +kernel⟩
  have hfor : ∀ l ∈ [first, second], l.IsFor base 2 := by
    intro l hl
    rcases List.mem_pair.1 hl with rfl | rfl <;> exact ⟨rfl, rfl, by decide, by decide⟩
  have hlater : ∀ u : Timestamp, u.InDigits → files.HasFile (logs ++ [nameTelling base.stem u]) →
      ∀ l ∈ [first, second], u.IsBefore l.start := by
    intro u hu hfile
    have hname := hpresent _ (fits_nameTelling hliteral u) (by
      obtain ⟨content, hget⟩ := hfile
      simp [hget])
    obtain rfl := (nameTelling_inj hu (by decide)).1 (hname.trans hold)
    decide
  obtain ⟨-, past, -, -, hiff, hall⟩ := retention_over_launches (by decide) hmade hlocate hliteral
    (by decide) hnames hfor (by decide) hlater
  obtain ⟨states, hstates⟩ := hiff.2 (by decide +kernel)
  obtain ⟨hlength, hleaves⟩ := hall states hstates
  have hsecond : 1 < states.length := by
    rw [hlength]
    decide
  have hlast : states[1]? = some states[1] := List.getElem?_eq_getElem hsecond
  obtain ⟨-, -, hretains, hothers⟩ := hleaves 1 second _ rfl hlast
  -- Two are kept, so it does not matter which times are past.
  have htimes : (second.start :: (startsBefore [first, second] 1 ++ past)).take 2 =
      [second.start, first.start] := rfl
  rw [htimes] at hretains
  refine ⟨states, states[1], hstates, hlast, hretains, ?_, ?_⟩
  · by_contra hget
    obtain ⟨u, hu, hname⟩ := hretains.covered old (hold ▸ fits_nameTelling hliteral _) hget
    exact absurd hname (by revert u; decide +kernel)
  · rw [hothers.others]
    · rfl
    · intro name hfits heq
      obtain rfl := (List.cons.inj (List.append_cancel_left heq)).1
      exact hother hfits

end Logging

end Desinence
