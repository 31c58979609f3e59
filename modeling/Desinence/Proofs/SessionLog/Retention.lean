/-
What becomes of the session logs in a folder.

`Retains base folder times t` says of a tree that the folder of a base has the session
logs of these times, the newest first, and nothing else that fits their pattern. Names
that tell times are in the order of these, so a cleanup finds the logs as they stand in
the list and keeps the first of them (`Retains.cleanup`). The log of a later time is put
in front (`Retains.cons`). What does not fit the pattern is the same after either.
-/
import Mathlib.Data.Set.List
import Desinence.Proofs.SessionLog.Naming

set_option autoImplicit false

namespace Desinence

namespace SessionLog

variable {base : Path} {folder : Location} {times : List Timestamp} {start : Timestamp}
  {stem name : Text} {t t' t'' : FileTree}

/-! ## Names that fit -/

/-- A name fits the pattern of a stem. -/
def Fits (stem name : Text) : Prop :=
  Glob.fits (Glob.pieces (patternOf stem)) name = true

instance (stem name : Text) : Decidable (Fits stem name) :=
  inferInstanceAs (Decidable (_ = true))

theorem fits_nameTelling (h : Glob.IsLiteral stem) (u : Timestamp) :
    Fits stem (nameTelling stem u) := by
  refine fits_patternOf_iff.2 ⟨stem, u.digits, ?_, rfl⟩
  rw [Glob.pieces_of_isLiteral h]
  exact Glob.fits_map_char_iff.2 rfl

/-- The one star of a pattern stands alone if the stem has none. -/
theorem hasDoubleStar_patternOf (h : Glob.IsLiteral stem) :
    Glob.hasDoubleStar (patternOf stem) = false := by
  rw [patternOf, List.append_assoc]
  induction stem with
  | nil => rfl
  | cons c stem ih =>
    obtain ⟨⟨hstar, -⟩, hstem⟩ := List.forall_mem_cons.1 h
    have hskip : ∀ r : Text, Glob.hasDoubleStar (c :: r) = Glob.hasDoubleStar r := by
      intro r
      rw [Glob.hasDoubleStar]
      exact fun s hc _ => hstar hc
    rw [List.cons_append, hskip, ih hstem]

/-- **Nothing is changed but what fits the pattern of a stem in a folder.** -/
structure LeavesOthers (folder : Location) (stem : Text) (t t' : FileTree) : Prop where
  workDir : t'.workDir = t.workDir
  others : ∀ loc, (∀ name, Fits stem name → loc ≠ folder ++ [name]) → t'.get? loc = t.get? loc

theorem LeavesOthers.trans (h : LeavesOthers folder stem t t')
    (h' : LeavesOthers folder stem t' t'') : LeavesOthers folder stem t t'' :=
  ⟨h'.workDir.trans h.workDir, fun loc hloc => (h'.others loc hloc).trans (h.others loc hloc)⟩

/-! ## Folders of session logs -/

/-- The locations of the session logs of these times. -/
def logsAt (folder : Location) (stem : Text) (times : List Timestamp) : List Location :=
  times.map fun u => folder ++ [nameTelling stem u]

theorem mem_logsAt_iff :
    folder ++ [name] ∈ logsAt folder stem times ↔ ∃ u ∈ times, name = nameTelling stem u := by
  simp only [logsAt, List.mem_map, List.append_cancel_left_eq, List.cons.injEq, and_true, eq_comm]

/-- **The folder of a base with the session logs of these times**, the newest first, and
with nothing else that fits the pattern. -/
structure Retains (base : Path) (folder : Location) (times : List Timestamp) (t : FileTree) :
    Prop where
  keyed : t.Keyed
  locate : t.locate base.parent = .ok folder
  isFolder : t.get? folder = some .folder
  newestFirst : times.Pairwise fun later earlier => earlier.IsBefore later
  inDigits : ∀ u ∈ times, u.InDigits
  hasFile : ∀ u ∈ times, t.HasFile (folder ++ [nameTelling base.stem u])
  covered : ∀ name, Fits base.stem name → t.get? (folder ++ [name]) ≠ none →
    ∃ u ∈ times, name = nameTelling base.stem u

/-- **A folder in which all that fits are session logs** has those of some times. -/
theorem exists_retains (hkeyed : t.Keyed) (hlocate : t.locate base.parent = .ok folder)
    (hfolder : t.get? folder = some .folder)
    (hnames : ∀ name, Fits base.stem name → t.get? (folder ++ [name]) ≠ none →
      t.HasFile (folder ++ [name]) ∧ IsNameOf base.stem name) :
    ∃ times, Retains base folder times t := by
  have hfound : ∀ name, name ∈ namesFitting t folder base.stem ↔
      Fits base.stem name ∧ t.get? (folder ++ [name]) ≠ none := by
    intro name
    rw [mem_namesFitting_iff]
    exact ⟨fun ⟨hin, hfits⟩ => ⟨hfits, FileTree.get?_ne_none_of_mem_namesIn hin⟩,
      fun ⟨hfits, hget⟩ => ⟨(hnames name hfits hget).1.mem_namesIn, hfits⟩⟩
  -- Each name tells a time, so the list of names is one of times.
  have hrange : namesFitting t folder base.stem ∈ Set.range
      (List.map fun u : {u : Timestamp // u.InDigits} => nameTelling base.stem u.1) := by
    rw [Set.range_list_map]
    intro name hname
    obtain ⟨hfits, hget⟩ := (hfound name).1 hname
    obtain ⟨u, hu, rfl⟩ := (hnames name hfits hget).2.exists_time
    exact ⟨⟨u, hu⟩, rfl⟩
  obtain ⟨times, htimes⟩ := hrange
  have hdescending : (namesFitting t folder base.stem).Pairwise (· > ·) :=
    Text.pairwise_reverse_sorted ((hkeyed.nodup_namesIn folder).filter _)
  rw [← htimes, List.pairwise_map] at hdescending
  refine ⟨times.map Subtype.val, hkeyed, hlocate, hfolder, ?_, ?_, ?_, ?_⟩
  · rw [List.pairwise_map]
    exact hdescending.imp fun hgt => (nameTelling_lt_iff (Subtype.prop _) (Subtype.prop _)).1 hgt
  · exact List.forall_mem_map.2 fun u _ => u.2
  · refine List.forall_mem_map.2 fun u hu => ?_
    have hname := (hfound (nameTelling base.stem u.1)).1 (htimes ▸ List.mem_map_of_mem hu)
    exact (hnames _ hname.1 hname.2).1
  · intro name hfits hget
    have hname := (hfound name).2 ⟨hfits, hget⟩
    rw [← htimes] at hname
    obtain ⟨u, hu, rfl⟩ := List.mem_map.1 hname
    exact ⟨u.1, List.mem_map_of_mem hu, rfl⟩

namespace Retains

variable (h : Retains base folder times t)

include h

/-- The names are in descending order. -/
theorem descending : (times.map (nameTelling base.stem)).Pairwise (· > ·) := by
  rw [List.pairwise_map]
  exact h.newestFirst.imp_of_mem fun hu hv hlater =>
    nameTelling_lt (h.inDigits _ hv) (h.inDigits _ hu) hlater

/-- **A cleanup finds the session logs in the order of their times**, the newest first. -/
theorem namesFitting_eq (hliteral : Glob.IsLiteral base.stem) :
    namesFitting t folder base.stem = times.map (nameTelling base.stem) := by
  refine Text.reverse_sorted_eq ((h.keyed.nodup_namesIn folder).filter _) h.descending
    fun name => ?_
  rw [List.mem_filter, List.mem_map]
  constructor
  · rintro ⟨hname, hfits⟩
    obtain ⟨u, hu, rfl⟩ := h.covered name hfits (FileTree.get?_ne_none_of_mem_namesIn hname)
    exact ⟨u, hu, rfl⟩
  · rintro ⟨u, hu, rfl⟩
    exact ⟨(h.hasFile u hu).mem_namesIn, fits_nameTelling hliteral u⟩

/-- Nothing that fits is a folder. -/
theorem get?_ne_folder (hfits : Fits base.stem name) :
    t.get? (folder ++ [name]) ≠ some .folder := by
  intro hget
  obtain ⟨u, hu, rfl⟩ := h.covered name hfits (by simp [hget])
  exact (h.hasFile u hu).get?_ne_folder hget

/-! ## Cleanups -/

/-- What a cleanup does: the logs behind the first are removed. -/
theorem cleanup_eq (hliteral : Glob.IsLiteral base.stem) (keep : Nat) :
    SessionLog.cleanup t base keep =
      .ok ((logsAt folder base.stem (times.drop (keep - 1))).foldl FileTree.removeFile t) := by
  have hleft : leftOf keep = keep - 1 := by
    rw [leftOf]
    omega
  have hroom : t.isFolder base.parent = true :=
    FileTree.isFolder_iff.2 ⟨folder, h.locate, h.isFolder⟩
  rw [SessionLog.cleanup, hasDoubleStar_patternOf hliteral, hroom, h.locate]
  simp only [Bool.false_eq_true, if_false, h.namesFitting_eq hliteral, hleft, ← List.map_drop,
    logsAt, List.foldl_map]

/-- A log that is kept is none of those behind it. -/
theorem not_mem_logsAt_drop {k : Nat} {u : Timestamp} (hu : u ∈ times.take k) :
    folder ++ [nameTelling base.stem u] ∉ logsAt folder base.stem (times.drop k) := by
  intro hmem
  obtain ⟨v, hv, hname⟩ := mem_logsAt_iff.1 hmem
  obtain rfl := (nameTelling_inj (h.inDigits u (List.mem_of_mem_take hu))
    (h.inDigits v (List.mem_of_mem_drop hv))).1 hname
  have hsplit := h.newestFirst
  rw [← List.take_append_drop k times, List.pairwise_append] at hsplit
  exact (hsplit.2.2 u hu u hv).ne rfl

/-- **When the logs behind the first are removed**, the first are left. -/
theorem take (k : Nat) : Retains base folder (times.take k)
    ((logsAt folder base.stem (times.drop k)).foldl FileTree.removeFile t) := by
  have hfolders : t.KeepsFolders
      ((logsAt folder base.stem (times.drop k)).foldl FileTree.removeFile t) := by
    refine ⟨FileTree.workDir_foldl_removeFile t _, fun loc hget => ?_⟩
    rw [FileTree.get?_foldl_removeFile_of_not_hasFile, hget]
    exact fun hfile => hfile.get?_ne_folder hget
  refine ⟨h.keyed.foldl_removeFile _, hfolders.locate_eq_ok h.locate,
    hfolders.folder folder h.isFolder, h.newestFirst.sublist (List.take_sublist k times),
    fun u hu => h.inDigits u (List.mem_of_mem_take hu), fun u hu => ?_, fun name hfits hget => ?_⟩
  · rw [FileTree.HasFile, FileTree.get?_foldl_removeFile_of_not_mem (h.not_mem_logsAt_drop hu)]
    exact h.hasFile u (List.mem_of_mem_take hu)
  · -- What is still there was there, and is none of those that are gone.
    have hstays : folder ++ [name] ∉ logsAt folder base.stem (times.drop k) := by
      intro hmem
      obtain ⟨u, hu, rfl⟩ := mem_logsAt_iff.1 hmem
      exact hget (FileTree.get?_foldl_removeFile_of_mem hmem
        (h.hasFile u (List.mem_of_mem_drop hu)))
    rw [FileTree.get?_foldl_removeFile_of_not_mem hstays] at hget
    obtain ⟨u, hu, rfl⟩ := h.covered name hfits hget
    rw [← List.take_append_drop k times, List.mem_append] at hu
    exact ⟨u, hu.resolve_right fun hdrop => hstays (mem_logsAt_iff.2 ⟨u, hdrop, rfl⟩), rfl⟩

/-- **A cleanup keeps the newest.** -/
theorem cleanup (hliteral : Glob.IsLiteral base.stem) (keep : Nat) :
    ∃ t', SessionLog.cleanup t base keep = .ok t' ∧
      Retains base folder (times.take (keep - 1)) t' ∧ LeavesOthers folder base.stem t t' := by
  refine ⟨_, h.cleanup_eq hliteral keep, h.take (keep - 1),
    FileTree.workDir_foldl_removeFile t _, fun loc hloc => ?_⟩
  refine FileTree.get?_foldl_removeFile_of_not_mem fun hmem => ?_
  obtain ⟨u, -, rfl⟩ := List.mem_map.1 hmem
  exact hloc _ (fits_nameTelling hliteral u) rfl

/-! ## A new session log -/

/-- **The log of a later time is put in front.** -/
theorem cons (hliteral : Glob.IsLiteral base.stem) (hdigits : start.InDigits)
    (hlater : ∀ u ∈ times, u.IsBefore start)
    (hwrites : t.WritesFile (folder ++ [nameTelling base.stem start]) t') :
    Retains base folder (start :: times) t' ∧ LeavesOthers folder base.stem t t' := by
  have hfits := fits_nameTelling hliteral start
  have hfolders := hwrites.keepsFolders (h.get?_ne_folder hfits)
  refine ⟨⟨hwrites.keyed h.keyed, hfolders.locate_eq_ok h.locate,
    hfolders.folder folder h.isFolder, List.pairwise_cons.2 ⟨hlater, h.newestFirst⟩,
    List.forall_mem_cons.2 ⟨hdigits, h.inDigits⟩,
    List.forall_mem_cons.2 ⟨hwrites.hasFile, fun u hu => ?_⟩, fun name hname hget => ?_⟩,
    hwrites.workDir, fun loc hloc => hwrites.others loc (hloc _ hfits)⟩
  · have hne : folder ++ [nameTelling base.stem u] ≠ folder ++ [nameTelling base.stem start] := by
      intro heq
      have hsame := (nameTelling_inj (h.inDigits u hu) hdigits).1
        (List.cons.inj (List.append_cancel_left heq)).1
      exact (hlater u hu).ne hsame
    rw [FileTree.HasFile, hwrites.others _ hne]
    exact h.hasFile u hu
  · by_cases hnew : name = nameTelling base.stem start
    · exact ⟨start, List.mem_cons_self, hnew⟩
    · have hne : folder ++ [name] ≠ folder ++ [nameTelling base.stem start] := by
        simpa using hnew
      rw [hwrites.others _ hne] at hget
      obtain ⟨u, hu, heq⟩ := h.covered name hname hget
      exact ⟨u, List.mem_cons_of_mem _ hu, heq⟩

end Retains

end SessionLog

end Desinence
