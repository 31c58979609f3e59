/-
What a cleanup removes.

A cleanup removes files one by one, and removing a file touches nothing else. So
what it does to a tree is known from the locations of the old logs: the files beside
the base whose names fit the pattern of its stem and are not among the first in
descending order.

A fitting name begins with what fits the stem and an underscore, and ends with the
extension. In between it may have anything. All session logs of a stem without
special characters are named so, but not only they: where one stem continues
another behind an underscore, the session logs of the longer fit the pattern of the
shorter. A cleanup spares what is not a session log of its own base as long as no
such name is among the old ones, and only then.
-/
import Desinence.SessionLog
import Desinence.Proofs.FileTree
import Desinence.Proofs.Glob

set_option autoImplicit false

namespace Desinence

namespace SessionLog

variable {t t' : FileTree} {base : Path} {keep : Int} {loc : Location}

/-! ## Names -/

/-- **The names of session logs**: a stem, eight digits, six digits and the
extension, with underscores between the first three. -/
def IsNameOf (stem name : Text) : Prop :=
  ∃ day time : Text, name = stem ++ ['_'] ++ day ++ ['_'] ++ time ++ extension ∧
    day.length = 8 ∧ time.length = 6 ∧ (day ++ time).all isDigit = true

theorem IsNameOf.length_eq {stem name : Text} (h : IsNameOf stem name) :
    name.length = stem.length + 20 := by
  obtain ⟨day, time, rfl, hday, htime, -⟩ := h
  have hextension : extension.length = 4 := by decide
  simp only [List.length_append, List.length_singleton, hday, htime, hextension]

/-- **What fits the pattern of a stem**: anything in between an underscore and the
extension, behind what fits the stem as a pattern. -/
theorem fits_patternOf_iff {stem name : Text} :
    Glob.fits (Glob.pieces (patternOf stem)) name = true ↔
      ∃ front mid, Glob.fits (Glob.pieces stem) front = true ∧
        name = front ++ ['_'] ++ mid ++ extension := by
  have hextension : Glob.IsLiteral extension := by decide
  have hpieces : Glob.pieces (patternOf stem) =
      Glob.pieces stem ++ (.char '_' :: .anyRun :: extension.map .char) := by
    rw [patternOf, List.append_assoc, Glob.pieces_append (by decide)]
    rfl
  rw [hpieces, Glob.fits_append_iff]
  -- The second stretch is an underscore, what the star takes, and the extension.
  constructor
  · rintro ⟨front, back, rfl, hfront, hback⟩
    obtain ⟨c, rest, rfl, hc, hrest⟩ := (Glob.fits_cons_iff (by simp)).1 hback
    obtain ⟨mid, ending, rfl, hending⟩ := Glob.fits_anyRun_iff.1 hrest
    obtain rfl : c = '_' := beq_iff_eq.1 hc
    obtain rfl : ending = extension := Glob.fits_map_char_iff.1 hending
    exact ⟨front, mid, hfront, by simp⟩
  · rintro ⟨front, mid, hfront, rfl⟩
    have hrest : Glob.fits (.anyRun :: extension.map .char) (mid ++ extension) = true :=
      Glob.fits_anyRun_iff.2 ⟨mid, extension, rfl, Glob.fits_map_char_iff.2 rfl⟩
    refine ⟨front, '_' :: (mid ++ extension), by simp, hfront, ?_⟩
    exact (Glob.fits_cons_iff (by simp)).2 ⟨'_', mid ++ extension, rfl, rfl, hrest⟩

/-- The names among which the old logs are sought are those in the folder that fit. -/
theorem mem_namesFitting_iff {folder : Location} {stem name : Text} :
    name ∈ namesFitting t folder stem ↔
      name ∈ t.namesIn folder ∧ Glob.fits (Glob.pieces (patternOf stem)) name = true := by
  rw [namesFitting, List.mem_reverse, (Text.perm_sorted _).mem_iff, List.mem_filter]

/-! ## Old logs -/

/-- The location of an old log: a file beside the base that fits its pattern, and is
not among the first that do, in descending order. -/
def IsOld (t : FileTree) (base : Path) (keep : Int) (loc : Location) : Prop :=
  ∃ folder name, t.isFolder base.parent = true ∧ t.locate base.parent = .ok folder ∧
    name ∈ (namesFitting t folder base.stem).drop (leftOf keep) ∧
    loc = folder ++ [name] ∧ t.HasFile loc

/-- A cleanup removes files in the folder of the base, if there is one. -/
theorem eq_of_cleanup (h : cleanup t base keep = .ok t') :
    (∃ folder, t.isFolder base.parent = true ∧ t.locate base.parent = .ok folder ∧
      t' = (((namesFitting t folder base.stem).drop (leftOf keep)).map
        fun name => folder ++ [name]).foldl FileTree.removeFile t) ∨
    t.isFolder base.parent = false ∧ t' = t := by
  rw [cleanup] at h
  split at h
  · exact absurd h (by simp)
  split at h
  · exact absurd h (by simp)
  next folder hfolder hlocate =>
    refine .inl ⟨folder, hfolder, hlocate, ?_⟩
    rw [List.foldl_map]
    exact (Except.ok.inj h).symm
  next hnone =>
    refine .inr ⟨?_, (Except.ok.inj h).symm⟩
    cases hfolder : t.isFolder base.parent with
    | false => rfl
    | true =>
      -- A path to a folder leads somewhere.
      cases hlocate : t.locate base.parent with
      | ok folder => exact absurd hlocate (hnone folder hfolder)
      | error flaw =>
        rw [FileTree.isFolder, FileTree.entryAt, hlocate] at hfolder
        exact absurd hfolder (by simp)

theorem get?_of_isOld (h : cleanup t base keep = .ok t') (hold : IsOld t base keep loc) :
    t'.get? loc = none := by
  obtain ⟨folder, name, hfolder, hlocate, hname, rfl, hfile⟩ := hold
  obtain ⟨folder', -, hlocate', rfl⟩ | ⟨hnone, -⟩ := eq_of_cleanup h
  · obtain rfl : folder' = folder := Except.ok.inj (hlocate'.symm.trans hlocate)
    exact FileTree.get?_foldl_removeFile_of_mem (List.mem_map_of_mem hname) hfile
  · exact absurd hfolder (by simp [hnone])

theorem get?_of_not_isOld (h : cleanup t base keep = .ok t') (hold : ¬IsOld t base keep loc) :
    t'.get? loc = t.get? loc := by
  obtain ⟨folder, hfolder, hlocate, rfl⟩ | ⟨-, rfl⟩ := eq_of_cleanup h
  · by_cases hfile : t.HasFile loc
    · apply FileTree.get?_foldl_removeFile_of_not_mem
      intro hmem
      obtain ⟨name, hname, rfl⟩ := List.mem_map.1 hmem
      exact hold ⟨folder, name, hfolder, hlocate, hname, rfl, hfile⟩
    · exact FileTree.get?_foldl_removeFile_of_not_hasFile hfile
  · rfl

/-- The names of old logs. -/
theorem IsOld.exists_name (h : IsOld t base keep loc) :
    ∃ folder front mid, t.locate base.parent = .ok folder ∧
      Glob.fits (Glob.pieces base.stem) front = true ∧
      (Glob.IsLiteral base.stem → front = base.stem) ∧
      loc = folder ++ [front ++ ['_'] ++ mid ++ extension] := by
  obtain ⟨folder, name, -, hlocate, hname, rfl, -⟩ := h
  obtain ⟨-, hfits⟩ := mem_namesFitting_iff.1 (List.mem_of_mem_drop hname)
  obtain ⟨front, mid, hfront, rfl⟩ := fits_patternOf_iff.1 hfits
  refine ⟨folder, front, mid, hlocate, hfront, fun hliteral => ?_, rfl⟩
  rw [Glob.pieces_of_isLiteral hliteral] at hfront
  exact Glob.fits_map_char_iff.1 hfront

/-! ## What is spared -/

/-- The location of a session log of a base. -/
def IsOwn (t : FileTree) (base : Path) (loc : Location) : Prop :=
  ∃ folder name, t.locate base.parent = .ok folder ∧ IsNameOf base.stem name ∧
    loc = folder ++ [name]

/-- Nothing is changed but session logs of the base. -/
def SparesOthers (t t' : FileTree) (base : Path) : Prop :=
  ∀ loc, ¬IsOwn t base loc → t'.get? loc = t.get? loc

theorem sparesOthers_iff (h : cleanup t base keep = .ok t') :
    SparesOthers t t' base ↔ ∀ loc, IsOld t base keep loc → IsOwn t base loc := by
  constructor
  · intro hspares loc hold
    by_contra hown
    -- An old log was a file, and is gone.
    have hsame := hspares loc hown
    obtain ⟨content, hget⟩ : t.HasFile loc := by
      obtain ⟨-, -, -, -, -, -, hfile⟩ := hold
      exact hfile
    rw [get?_of_isOld h hold, hget] at hsame
    exact absurd hsame (by simp)
  · intro hall loc hown
    exact get?_of_not_isOld h fun hold => hown (hall loc hold)

/-! ## Cleanups -/

/-- **What a cleanup does.** Old logs are gone and everything else is as it was. The
old logs are files beside the base, and their names continue the stem, or what fits
it, by an underscore and end with the extension. Nothing but session logs of the base
is changed exactly if all the old logs are such. -/
theorem effect_of_cleanup {t t' : FileTree} {base : Path} {keep : Int}
    (h : cleanup t base keep = .ok t') :
    (∀ loc, IsOld t base keep loc → t'.get? loc = none) ∧
    (∀ loc, ¬IsOld t base keep loc → t'.get? loc = t.get? loc) ∧
    (∀ loc, IsOld t base keep loc → ∃ folder front mid, t.locate base.parent = .ok folder ∧
      Glob.fits (Glob.pieces base.stem) front = true ∧
      (Glob.IsLiteral base.stem → front = base.stem) ∧
      loc = folder ++ [front ++ ['_'] ++ mid ++ extension]) ∧
    (SparesOthers t t' base ↔ ∀ loc, IsOld t base keep loc → IsOwn t base loc) :=
  ⟨fun _ => get?_of_isOld h, fun _ => get?_of_not_isOld h, fun _ => IsOld.exists_name,
    sparesOthers_iff h⟩

/-- One of two session logs is old if one more is about to be made and two are to be
kept; the log of another stem is spared. -/
theorem effect_of_cleanup_two_logs :
    let older : Text := "rslp_20250101_000000.log".toList
    let newer : Text := "rslp_20250102_000000.log".toList
    let other : Text := "other_20250101_000000.log".toList
    let t : FileTree := ⟨[], [([other], .file []), ([newer], .file []), ([older], .file [])]⟩
    let t' : FileTree := ⟨[], [([other], .file []), ([newer], .file [])]⟩
    let base : Path := .ofText "rslp.log".toList
    cleanup t base 2 = .ok t' ∧ IsOld t base 2 [older] ∧ t'.get? [older] = none ∧
      ¬IsOld t base 2 [other] ∧ t'.get? [other] = t.get? [other] ∧ SparesOthers t t' base := by
  intro older newer other t t' base
  have hcleanup : cleanup t base 2 = .ok t' := by decide +kernel
  have hlocate : t.locate base.parent = .ok [] := by decide +kernel
  have hnames : (namesFitting t [] base.stem).drop (leftOf 2) = [older] := by decide +kernel
  have hisOld : IsOld t base 2 [older] :=
    ⟨[], older, by decide +kernel, hlocate, by rw [hnames]; exact List.mem_singleton_self _, rfl,
      [], rfl⟩
  have honly : ∀ loc, IsOld t base 2 loc → loc = [older] := by
    rintro loc ⟨folder, name, -, hfolder, hname, rfl, -⟩
    obtain rfl : folder = [] := Except.ok.inj (hfolder.symm.trans hlocate)
    rw [hnames, List.mem_singleton] at hname
    rw [hname, List.nil_append]
  have hother : ¬IsOld t base 2 [other] := fun h => absurd (honly _ h) (by decide +kernel)
  have hown : IsOwn t base [older] :=
    ⟨[], older, hlocate, ⟨"20250101".toList, "000000".toList, by decide +kernel⟩, rfl⟩
  obtain ⟨hgone, hsame, -, hspares⟩ := effect_of_cleanup hcleanup
  exact ⟨hcleanup, hisOld, hgone _ hisOld, hother, hsame _ hother,
    hspares.2 fun loc h => honly loc h ▸ hown⟩

/-- **A session log of another base is removed.** The stem of the other continues the
stem of the base by an underscore, so its session log fits the base's pattern; it is
none of the base's own and does not survive. -/
theorem not_sparesOthers_longer_stem :
    let other : Text := "rslp_api_20250101_000000.log".toList
    let t : FileTree := ⟨[], [([other], .file [])]⟩
    let t' : FileTree := ⟨[], []⟩
    let base : Path := .ofText "rslp.log".toList
    cleanup t base 1 = .ok t' ∧ IsNameOf "rslp_api".toList other ∧ ¬IsOwn t base [other] ∧
      ¬SparesOthers t t' base := by
  intro other t t' base
  have hcleanup : cleanup t base 1 = .ok t' := by decide +kernel
  have hname : IsNameOf "rslp_api".toList other :=
    ⟨"20250101".toList, "000000".toList, by decide +kernel⟩
  have hown : ¬IsOwn t base [other] := by
    rintro ⟨folder, name, hlocate, hname, hloc⟩
    obtain rfl : folder = [] := Except.ok.inj (hlocate.symm.trans (by decide +kernel))
    obtain rfl : other = name := (List.cons.inj hloc).1
    -- The name is longer than a stamp behind the stem.
    exact absurd hname.length_eq (by decide +kernel)
  refine ⟨hcleanup, hname, hown, fun hspares => ?_⟩
  exact absurd (hspares [other] hown) (by decide +kernel)

end SessionLog

end Desinence
