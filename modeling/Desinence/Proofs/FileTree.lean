/-
Trees of files that change.

A change to a tree is told by what it does not touch. Removing a file touches its own
location only, and so does writing to one; making folders adds folders where nothing
was. A path leads through folders, so it leads to the same place in every tree that has
kept these (`KeepsFolders`), whatever became of the files.

The names in a folder are read off the list of entries. Where each location has one
entry, which no change disturbs, every name is there once and is the name of something.
-/
import Mathlib.Data.List.Nodup
import Desinence.FileTree

set_option autoImplicit false

namespace Desinence

/-- **A path to which a file can be made**, as far as its name goes: there is no NUL
character in it, and neither the name nor the whole path has too many bytes. -/
def Path.IsNameable (p : Path) : Prop :=
  '\x00' ∉ p.name ∧ (Utf8.encode p.name).length ≤ FileTree.partLimit ∧
    (Utf8.encode p.text).length ≤ FileTree.pathLimit

instance (p : Path) : Decidable p.IsNameable :=
  inferInstanceAs (Decidable (_ ∧ _ ∧ _))

namespace FileTree

variable {t t' t'' : FileTree} {loc loc' : Location} {locs : List Location} {p : Path}

/-- There is a file at a location. -/
def HasFile (t : FileTree) (loc : Location) : Prop :=
  ∃ content, t.get? loc = some (.file content)

/-! ## Removing files -/

theorem removeFile_of_not_hasFile (h : ¬t.HasFile loc) : t.removeFile loc = t := by
  rw [removeFile]
  split
  next content hget => exact absurd ⟨content, hget⟩ h
  · rfl

/-- A file that is removed is gone. -/
theorem get?_removeFile_self (h : t.HasFile loc) : (t.removeFile loc).get? loc = none := by
  obtain ⟨content, hget⟩ := h
  have hworkDir : ¬loc.isPrefixOf t.workDir = true := by
    intro hprefix
    rw [get?, if_pos hprefix] at hget
    exact absurd hget (by simp)
  rw [removeFile, hget]
  dsimp only
  rw [get?_erase, if_neg hworkDir, if_pos rfl]

/-- Removing a file does not touch another location. -/
theorem get?_removeFile_of_ne (h : loc' ≠ loc) : (t.removeFile loc).get? loc' = t.get? loc' := by
  rw [removeFile]
  split
  · rw [get?_erase, if_neg h]
    split
    next hprefix => rw [get?, if_pos hprefix]
    · rfl
  · rfl

/-- Where no file is, nothing changes, whatever is removed. -/
theorem get?_foldl_removeFile_of_not_hasFile (h : ¬t.HasFile loc) :
    (locs.foldl removeFile t).get? loc = t.get? loc := by
  induction locs generalizing t with
  | nil => rfl
  | cons l locs ih =>
    -- At the location itself there is nothing to remove.
    have hfirst : (t.removeFile l).get? loc = t.get? loc := by
      by_cases hl : loc = l
      · rw [← hl, removeFile_of_not_hasFile h]
      · exact get?_removeFile_of_ne hl
    rw [List.foldl_cons, ih (by rwa [HasFile, hfirst]), hfirst]

/-- **Removing files touches no other location.** -/
theorem get?_foldl_removeFile_of_not_mem (h : loc ∉ locs) :
    (locs.foldl removeFile t).get? loc = t.get? loc := by
  induction locs generalizing t with
  | nil => rfl
  | cons l locs ih =>
    rw [List.mem_cons, not_or] at h
    rw [List.foldl_cons, ih h.2, get?_removeFile_of_ne h.1]

/-- **Files that are removed are gone.** -/
theorem get?_foldl_removeFile_of_mem (h : loc ∈ locs) (hfile : t.HasFile loc) :
    (locs.foldl removeFile t).get? loc = none := by
  induction locs generalizing t with
  | nil => exact absurd h List.not_mem_nil
  | cons l locs ih =>
    rw [List.foldl_cons]
    by_cases hl : loc = l
    · -- Once it is gone, the rest of the removals find no file there.
      subst hl
      have hgone : (t.removeFile loc).get? loc = none := get?_removeFile_self hfile
      have hnone : ¬(t.removeFile loc).HasFile loc := by
        rintro ⟨content, hget⟩
        rw [hgone] at hget
        exact absurd hget (by simp)
      rw [get?_foldl_removeFile_of_not_hasFile hnone, hgone]
    · have hkept : (t.removeFile l).HasFile loc := by
        rwa [HasFile, get?_removeFile_of_ne hl]
      exact ih ((List.mem_cons.1 h).resolve_left hl) hkept

/-! ## One entry for each location -/

/-- **A tree with one entry for each location.** -/
def Keyed (t : FileTree) : Prop :=
  (t.entries.map Prod.fst).Nodup

instance (t : FileTree) : Decidable t.Keyed :=
  inferInstanceAs (Decidable (List.Nodup _))

theorem Keyed.erase (h : t.Keyed) (loc : Location) : (t.erase loc).Keyed :=
  h.sublist (List.filter_sublist.map _)

theorem Keyed.put (h : t.Keyed) (loc : Location) (e : Entry) : (t.put loc e).Keyed := by
  have hnew : loc ∉ (t.entries.filter fun p => p.1 != loc).map Prod.fst := by
    intro hmem
    obtain ⟨p, hp, rfl⟩ := List.mem_map.1 hmem
    simpa using (List.mem_filter.1 hp).2
  exact List.nodup_cons.2 ⟨hnew, h.erase loc⟩

theorem Keyed.removeFile (h : t.Keyed) (loc : Location) : (t.removeFile loc).Keyed := by
  rw [FileTree.removeFile]
  split
  · exact h.erase loc
  · exact h

theorem Keyed.foldl_removeFile (h : t.Keyed) (locs : List Location) :
    (locs.foldl FileTree.removeFile t).Keyed := by
  induction locs generalizing t with
  | nil => exact h
  | cons loc locs ih => exact ih (h.removeFile loc)

theorem workDir_removeFile (t : FileTree) (loc : Location) :
    (t.removeFile loc).workDir = t.workDir := by
  rw [removeFile]
  split <;> rfl

theorem workDir_foldl_removeFile (t : FileTree) (locs : List Location) :
    (locs.foldl removeFile t).workDir = t.workDir := by
  induction locs generalizing t with
  | nil => rfl
  | cons loc locs ih => rw [List.foldl_cons, ih, workDir_removeFile]

/-- What is found is an entry, unless it is above the working directory. -/
theorem mem_of_get?_ne_none (h : t.get? loc ≠ none) :
    loc ∈ t.entries.map Prod.fst ∨ loc.isPrefixOf t.workDir = true := by
  rw [get?] at h
  split at h
  next habove => exact .inr habove
  · obtain ⟨e, he⟩ := Option.ne_none_iff_exists'.1 h
    obtain ⟨front, back, hentries, -⟩ := List.lookup_eq_some_iff.1 he
    rw [hentries]
    exact .inl (by simp)

/-! ## Names in a folder -/

section Names

variable {folder : Location} {name : Text}

/-- The names in a folder are the last parts of the locations right below it. -/
theorem mem_namesIn_iff : name ∈ t.namesIn folder ↔ folder ++ [name] ∈ t.entries.map Prod.fst := by
  have hlast : ∀ loc : Location,
      (if loc ≠ [] ∧ loc.dropLast = folder then loc.getLast? else none) = some name ↔
        loc = folder ++ [name] := by
    intro loc
    constructor
    · intro h
      split at h
      next hloc => rw [← hloc.2, List.dropLast_append_getLast? name h]
      · exact absurd h (by simp)
    · rintro rfl
      simp
  simp only [namesIn, List.mem_filterMap, hlast, List.mem_map]

theorem get?_ne_none_of_mem_namesIn (h : name ∈ t.namesIn folder) :
    t.get? (folder ++ [name]) ≠ none := by
  obtain ⟨p, hp, hloc⟩ := List.mem_map.1 (mem_namesIn_iff.1 h)
  rw [get?]
  split
  · simp
  · intro hnone
    have hne := List.lookup_eq_none_iff.1 hnone p hp
    simp [hloc] at hne

theorem HasFile.mem_namesIn (h : t.HasFile (folder ++ [name])) : name ∈ t.namesIn folder := by
  obtain ⟨content, hget⟩ := h
  have hne : t.get? (folder ++ [name]) ≠ none := by simp [hget]
  rcases mem_of_get?_ne_none hne with hmem | habove
  · exact mem_namesIn_iff.2 hmem
  · rw [get?, if_pos habove] at hget
    exact absurd hget (by simp)

/-- **No name is there twice.** -/
theorem Keyed.nodup_namesIn (h : t.Keyed) (folder : Location) : (t.namesIn folder).Nodup := by
  have hnames : t.namesIn folder = (t.entries.map Prod.fst).filterMap
      fun loc => if loc ≠ [] ∧ loc.dropLast = folder then loc.getLast? else none := by
    rw [List.filterMap_map]
    rfl
  rw [hnames]
  refine h.filterMap fun loc loc' name hloc hloc' => ?_
  -- A name and its folder make up the location.
  rw [Option.mem_def] at hloc hloc'
  split at hloc
  next hfolder =>
    split at hloc'
    next hfolder' =>
      rw [← List.dropLast_append_getLast? name hloc, ← List.dropLast_append_getLast? name hloc',
        hfolder.2, hfolder'.2]
    · exact absurd hloc' (by simp)
  · exact absurd hloc (by simp)

end Names

/-! ## Following paths -/

/-- One part is followed from a folder, unless it is too long. -/
theorem follow_cons_eq_ok_iff {part : Text} {rest : List Text} :
    t.follow loc (part :: rest) = .ok loc' ↔
      t.get? loc = some .folder ∧ (Utf8.encode part).length ≤ partLimit ∧
        t.follow (if part = ['.', '.'] then loc.dropLast else loc ++ [part]) rest = .ok loc' := by
  rw [follow]
  split
  next hget => simp [hget]
  next content hget => simp [hget]
  next hget =>
    rw [hget]
    split
    next hlong => simp [Nat.not_le.2 hlong]
    next hshort => simp [Nat.not_lt.1 hshort]

theorem follow_append_eq_ok_iff {parts rest : List Text} :
    t.follow loc (parts ++ rest) = .ok loc' ↔
      ∃ mid, t.follow loc parts = .ok mid ∧ t.follow mid rest = .ok loc' := by
  induction parts generalizing loc with
  | nil => simp [follow]
  | cons part parts ih =>
    simp only [List.cons_append, follow_cons_eq_ok_iff, ih]
    exact ⟨fun ⟨hget, hshort, mid, hmid, hrest⟩ => ⟨mid, ⟨hget, hshort, hmid⟩, hrest⟩,
      fun ⟨mid, ⟨hget, hshort, hmid⟩, hrest⟩ => ⟨hget, hshort, mid, hmid, hrest⟩⟩

/-- The location at which a path begins. -/
def startOf (t : FileTree) (p : Path) : Location :=
  if p.root = 0 then t.workDir else []

theorem locate_eq_ok_iff :
    t.locate p = .ok loc ↔
      (∀ part ∈ p.parts, '\x00' ∉ part) ∧ (Utf8.encode p.text).length ≤ pathLimit ∧
        t.follow (t.startOf p) p.parts = .ok loc := by
  have hnul : p.parts.any (·.contains '\x00') = true ↔ ¬∀ part ∈ p.parts, '\x00' ∉ part := by
    simp
  rw [locate, startOf]
  by_cases hn : ∀ part ∈ p.parts, '\x00' ∉ part
  · rw [if_neg (mt hnul.1 (not_not_intro hn))]
    by_cases hl : pathLimit < (Utf8.encode p.text).length
    · simp [hl, Nat.not_le.2 hl]
    · rw [if_neg hl]
      exact ⟨fun h => ⟨hn, Nat.not_lt.1 hl, h⟩, fun h => h.2.2⟩
  · rw [if_pos (hnul.2 hn)]
    exact ⟨fun h => absurd h (by simp), fun h => absurd h.1 hn⟩

theorem isFolder_iff :
    t.isFolder p = true ↔ ∃ loc, t.locate p = .ok loc ∧ t.get? loc = some .folder := by
  rw [isFolder, entryAt]
  cases hlocate : t.locate p with
  | error flaw => simp
  | ok loc => cases hget : t.get? loc with
    | none => simp [hget]
    | some e => cases e <;> simp [hget]

/-- **The path of a name in a folder** leads to that name there, unless the name or the
path is too long. -/
theorem locate_child_eq_ok_iff {name : Text} (hlocate : t.locate p = .ok loc)
    (hfolder : t.get? loc = some .folder) (hname : name ≠ ['.', '.']) :
    t.locate (p.child name) = .ok loc' ↔ (p.child name).IsNameable ∧ loc' = loc ++ [name] := by
  have hlast : (p.child name).name = name := List.getLastD_concat
  obtain ⟨hnul, -, hfollow⟩ := locate_eq_ok_iff.1 hlocate
  have hnuls : (∀ part ∈ (p.child name).parts, '\x00' ∉ part) ↔ '\x00' ∉ name := by
    simp only [Path.child, List.forall_mem_append, List.forall_mem_singleton]
    exact and_iff_right hnul
  have hend : t.follow (t.startOf (p.child name)) (p.child name).parts = .ok loc' ↔
      (Utf8.encode name).length ≤ partLimit ∧ loc' = loc ++ [name] := by
    have hstart : t.startOf (p.child name) = t.startOf p := rfl
    have hparts : (p.child name).parts = p.parts ++ [name] := rfl
    rw [hstart, hparts, follow_append_eq_ok_iff]
    constructor
    · rintro ⟨mid, hmid, hlast⟩
      obtain rfl : loc = mid := Except.ok.inj (hfollow.symm.trans hmid)
      obtain ⟨-, hshort, hstop⟩ := follow_cons_eq_ok_iff.1 hlast
      rw [if_neg hname] at hstop
      exact ⟨hshort, (Except.ok.inj hstop).symm⟩
    · rintro ⟨hshort, rfl⟩
      refine ⟨loc, hfollow, follow_cons_eq_ok_iff.2 ⟨hfolder, hshort, ?_⟩⟩
      rw [if_neg hname]
      rfl
  rw [locate_eq_ok_iff, hnuls, hend, Path.IsNameable, hlast]
  tauto

/-! ## Folders that are kept -/

/-- **All folders of a tree are kept.** -/
structure KeepsFolders (t t' : FileTree) : Prop where
  workDir : t'.workDir = t.workDir
  folder : ∀ loc, t.get? loc = some .folder → t'.get? loc = some .folder

theorem KeepsFolders.follow_eq_ok (h : t.KeepsFolders t') {parts : List Text}
    (hfollow : t.follow loc parts = .ok loc') : t'.follow loc parts = .ok loc' := by
  induction parts generalizing loc with
  | nil => exact hfollow
  | cons part rest ih =>
    obtain ⟨hget, hshort, hrest⟩ := follow_cons_eq_ok_iff.1 hfollow
    exact follow_cons_eq_ok_iff.2 ⟨h.folder loc hget, hshort, ih hrest⟩

/-- **A path leads to the same place** while the folders are kept. -/
theorem KeepsFolders.locate_eq_ok (h : t.KeepsFolders t') (hlocate : t.locate p = .ok loc) :
    t'.locate p = .ok loc := by
  obtain ⟨hnul, hlong, hfollow⟩ := locate_eq_ok_iff.1 hlocate
  have hstart : t'.startOf p = t.startOf p := by rw [startOf, startOf, h.workDir]
  refine locate_eq_ok_iff.2 ⟨hnul, hlong, ?_⟩
  rw [hstart]
  exact h.follow_eq_ok hfollow

/-! ## Making folders -/

/-- **A tree with more folders**: what there was is there still, and where there was
nothing there may be a folder now. -/
structure GainsFolders (t t' : FileTree) : Prop where
  workDir : t'.workDir = t.workDir
  keyed : t.Keyed → t'.Keyed
  kept : ∀ loc e, t.get? loc = some e → t'.get? loc = some e
  gained : ∀ loc, t.get? loc = none → t'.get? loc = none ∨ t'.get? loc = some .folder

theorem GainsFolders.refl (t : FileTree) : t.GainsFolders t :=
  ⟨rfl, id, fun _ _ => id, fun _ => .inl⟩

theorem GainsFolders.trans (h : t.GainsFolders t') (h' : t'.GainsFolders t'') :
    t.GainsFolders t'' where
  workDir := h'.workDir.trans h.workDir
  keyed := h'.keyed ∘ h.keyed
  kept loc e hget := h'.kept loc e (h.kept loc e hget)
  gained loc hget := by
    rcases h.gained loc hget with hnone | hfolder
    · exact h'.gained loc hnone
    · exact .inr (h'.kept loc _ hfolder)

theorem GainsFolders.keepsFolders (h : t.GainsFolders t') : t.KeepsFolders t' :=
  ⟨h.workDir, fun loc => h.kept loc _⟩

/-- Where nothing was, a new entry is found, and elsewhere all is the same. -/
theorem get?_put_of_ne_folder {e : Entry} (h : t.get? loc ≠ some .folder) :
    (t.put loc e).get? loc' = if loc' = loc then some e else t.get? loc' := by
  rw [get?_put]
  split
  next hprefix =>
    -- What is above the working directory is a folder, in any tree.
    have hfolder : t.get? loc' = some .folder := by rw [get?, if_pos hprefix]
    rw [hfolder, if_neg]
    rintro rfl
    exact h hfolder
  · rfl

theorem gainsFolders_put (h : t.get? loc = none) : t.GainsFolders (t.put loc .folder) where
  workDir := rfl
  keyed hkeyed := hkeyed.put loc _
  kept loc' e hget := by
    rw [get?_put_of_ne_folder (by simp [h]), if_neg, hget]
    rintro rfl
    simp [h] at hget
  gained loc' hget := by
    rw [get?_put_of_ne_folder (by simp [h]), hget]
    split
    · exact .inr rfl
    · exact .inl rfl

theorem GainsFolders.of_makeFolder (h : t.makeFolder p = .ok t') :
    t.GainsFolders t' ∧ t'.isFolder p = true := by
  rw [makeFolder] at h
  split at h
  · exact absurd h (by simp)
  next loc hlocate =>
    split at h
    · exact absurd h (by simp)
    next hnone =>
      obtain rfl := Except.ok.inj h
      have hgains := gainsFolders_put hnone
      refine ⟨hgains, isFolder_iff.2 ⟨loc, hgains.keepsFolders.locate_eq_ok hlocate, ?_⟩⟩
      rw [get?_put_of_ne_folder (by simp [hnone]), if_pos rfl]

/-- The induction goes up the path, from the folder itself to those above it. -/
theorem GainsFolders.of_makeFoldersUp {root : Nat} {up : List Text}
    (h : t.makeFoldersUp root up = .ok t') :
    t.GainsFolders t' ∧ t'.isFolder ⟨root, up.reverse⟩ = true := by
  induction up generalizing t t' with
  | nil =>
    rw [makeFoldersUp] at h
    split at h
    next u hmade =>
      obtain rfl := Except.ok.inj h
      exact of_makeFolder hmade
    · split at h
      next hfolder =>
        obtain rfl := Except.ok.inj h
        exact ⟨refl _, hfolder⟩
      · exact absurd h (by simp)
  | cons part up ih =>
    rw [List.reverse_cons]
    simp only [makeFoldersUp] at h
    split at h
    next u hmade =>
      obtain rfl := Except.ok.inj h
      exact of_makeFolder hmade
    · split at h
      · exact absurd h (by simp)
      next u hup =>
        -- What is above has been made, and the folder is tried once more.
        have habove := (ih hup).1
        split at h
        next v hmade =>
          obtain rfl := Except.ok.inj h
          obtain ⟨hgains, hfolder⟩ := of_makeFolder hmade
          exact ⟨habove.trans hgains, hfolder⟩
        · split at h
          next hfolder =>
            obtain rfl := Except.ok.inj h
            exact ⟨habove, hfolder⟩
          · exact absurd h (by simp)
    · split at h
      next hfolder =>
        obtain rfl := Except.ok.inj h
        exact ⟨refl _, hfolder⟩
      · exact absurd h (by simp)

/-- **Making folders** adds folders, and then the path leads to one. -/
theorem GainsFolders.of_makeFolders (h : t.makeFolders p = .ok t') :
    t.GainsFolders t' ∧ t'.isFolder p = true := by
  have hmade := of_makeFoldersUp h
  rwa [List.reverse_reverse] at hmade

/-- A folder that is there is left as it is. -/
theorem makeFolders_of_isFolder (h : t.isFolder p = true) : t.makeFolders p = .ok t := by
  have hthere : t.makeFolder p = .error .alreadyThere := by
    obtain ⟨loc, hlocate, hget⟩ := isFolder_iff.1 h
    rw [makeFolder, hlocate]
    dsimp only
    rw [hget]
  obtain ⟨root, parts⟩ := p
  rw [makeFolders]
  cases hparts : parts.reverse with
  | nil =>
    obtain rfl := List.reverse_eq_nil_iff.1 hparts
    rw [makeFoldersUp, hthere]
    dsimp only
    rw [if_pos h]
  | cons part up =>
    obtain rfl : parts = up.reverse ++ [part] := List.reverse_eq_cons_iff.1 hparts
    simp only [makeFoldersUp, hthere, h, if_true]

/-! ## Writing to a file -/

/-- **A tree with a file at a location** and otherwise the same. -/
structure WritesFile (t : FileTree) (loc : Location) (t' : FileTree) : Prop where
  workDir : t'.workDir = t.workDir
  keyed : t.Keyed → t'.Keyed
  hasFile : t'.HasFile loc
  others : ∀ loc', loc' ≠ loc → t'.get? loc' = t.get? loc'

theorem WritesFile.refl (h : t.HasFile loc) : t.WritesFile loc t :=
  ⟨rfl, id, h, fun _ _ => rfl⟩

theorem WritesFile.trans (h : t.WritesFile loc t') (h' : t'.WritesFile loc t'') :
    t.WritesFile loc t'' where
  workDir := h'.workDir.trans h.workDir
  keyed := h'.keyed ∘ h.keyed
  hasFile := h'.hasFile
  others loc' hne := (h'.others loc' hne).trans (h.others loc' hne)

theorem WritesFile.keepsFolders (h : t.WritesFile loc t') (hloc : t.get? loc ≠ some .folder) :
    t.KeepsFolders t' where
  workDir := h.workDir
  folder loc' hget := by
    rw [h.others loc', hget]
    rintro rfl
    exact hloc hget

theorem HasFile.get?_ne_folder (h : t.HasFile loc) : t.get? loc ≠ some .folder := by
  obtain ⟨content, hget⟩ := h
  simp [hget]

/-- What is added to has a place. -/
theorem exists_locate_of_append {bytes : Bytes} (h : t.append p bytes = .ok t') :
    ∃ loc, t.locate p = .ok loc := by
  rw [append] at h
  split at h
  · exact absurd h (by simp)
  next loc hlocate => exact ⟨loc, hlocate⟩

/-- **Adding to a file** succeeds where its path leads, unless there is a folder. -/
theorem exists_append (hlocate : t.locate p = .ok loc) (hloc : t.get? loc ≠ some .folder)
    (bytes : Bytes) : ∃ t', t.append p bytes = .ok t' ∧ t.WritesFile loc t' := by
  have hput : ∀ content, t.WritesFile loc (t.put loc (.file content)) := by
    intro content
    refine ⟨rfl, fun hkeyed => hkeyed.put loc _, ⟨content, ?_⟩, fun loc' hne => ?_⟩
    · rw [get?_put_of_ne_folder hloc, if_pos rfl]
    · rw [get?_put_of_ne_folder hloc, if_neg hne]
  rw [append, hlocate]
  dsimp only
  cases hget : t.get? loc with
  | none => exact ⟨_, rfl, hput bytes⟩
  | some e =>
    cases e with
    | folder => exact absurd hget hloc
    | file content => exact ⟨_, rfl, hput (content ++ bytes)⟩

end FileTree

end Desinence
