/-
Entries that are blank, and entries that are empty.

A written list has its entries in marks, with commas between. A blank entry is found
like any other and then dropped, because nothing is left of it without its blanks. An
empty entry is not found at all, and that is the smaller part of what becomes of it:
its two marks stand side by side, so the second opens, and from there on the marks
have changed places. The scan now goes from the closing mark of one entry to the
opening mark of the next and finds the comma between them, once for each entry that
is left (`scannedEntries`).

So the entries are kept as they should be up to the first empty one, and behind it
only if nothing stands there, or nothing but commas.
-/
import Desinence.Proofs.Layout

set_option autoImplicit false

namespace Desinence

namespace Record

variable {es : List Text}

/-! ## The scan over entries -/

/-- **What the scan takes from a list of entries**: those in front of the first empty
one, and a comma for each one behind it. -/
def scannedEntries (es : List Text) : List Text :=
  es.takeWhile (!·.isEmpty) ++ List.replicate ((es.dropWhile (!·.isEmpty)).length - 1) [',']

/-- The entries of a list, each behind a comma. -/
def continued (es : List Text) : Text :=
  es.flatMap fun e => ',' :: quotedField e

/-- A comma more in front of a list makes no difference to the scan. -/
theorem itemsFrom_joinWith_eq_continued (es : List Text) (t : Text) :
    itemsFrom none (Text.joinWith [','] (es.map quotedField) ++ t) =
      itemsFrom none (continued es ++ t) := by
  have hjoin : ∀ e es, Text.joinWith [','] ((e :: es).map quotedField) =
      quotedField e ++ continued es := by
    intro e es
    induction es generalizing e with
    | nil => simp [Text.joinWith, continued]
    | cons d ds ih =>
      rw [List.map_cons, List.map_cons, Text.joinWith, ← List.map_cons, ih]
      simp [continued]
  cases es with
  | nil => rfl
  | cons e es =>
    have hcontinued : continued (e :: es) ++ t = [','] ++ (quotedField e ++ continued es ++ t) := by
      simp [continued]
    rw [hjoin, hcontinued, itemsFrom_of_no_quote (show '"' ∉ [','] by decide)]

/-- **Behind an empty entry** a mark is open, and each further entry closes it with its
first mark and opens it again with its second. -/
theorem itemsFrom_misread {es : List Text} (h : ∀ e ∈ es, '"' ∉ e) {t : Text} (ht : '"' ∉ t) :
    itemsFrom (some []) (continued es ++ t) = List.replicate es.length [','] := by
  induction es with
  | nil => exact itemsFrom_of_unclosed ht _
  | cons e es ih =>
    obtain ⟨he, hes⟩ := List.forall_mem_cons.1 h
    have hsplit : continued (e :: es) ++ t = ',' :: '"' :: (e ++ '"' :: (continued es ++ t)) := by
      simp [continued, quotedField]
    calc itemsFrom (some []) (continued (e :: es) ++ t)
        = [','] :: itemsFrom none (e ++ '"' :: (continued es ++ t)) := by rw [hsplit]; rfl
      _ = [','] :: itemsFrom (some []) (continued es ++ t) := by rw [itemsFrom_of_no_quote he]; rfl
      _ = List.replicate (e :: es).length [','] := by rw [ih hes]; rfl

/-- **The scan over entries**, in front of text without a quote mark. The induction goes
up to the first empty entry, and the rest is misread. -/
theorem itemsFrom_continued {es : List Text} (h : ∀ e ∈ es, '"' ∉ e) {t : Text} (ht : '"' ∉ t) :
    itemsFrom none (continued es ++ t) = scannedEntries es := by
  induction es with
  | nil => exact itemsFrom_of_unclosed ht _
  | cons e es ih =>
    obtain ⟨he, hes⟩ := List.forall_mem_cons.1 h
    have hsplit : continued (e :: es) ++ t = [','] ++ (quotedField e ++ (continued es ++ t)) := by
      simp [continued]
    rw [hsplit, itemsFrom_of_no_quote (show '"' ∉ [','] by decide)]
    cases e with
    | nil =>
      -- The second mark opens what the first did not.
      have hopen : itemsFrom none (quotedField [] ++ (continued es ++ t)) =
          itemsFrom (some []) (continued es ++ t) := rfl
      rw [hopen, itemsFrom_misread hes ht]
      rfl
    | cons c r =>
      rw [itemsFrom_quotedField (List.cons_ne_nil c r) he, ih hes]
      rfl

theorem itemsFrom_entries (h : ∀ e ∈ es, '"' ∉ e) {t : Text} (ht : '"' ∉ t) :
    itemsFrom none (Text.joinWith [','] (es.map quotedField) ++ t) = scannedEntries es :=
  (itemsFrom_joinWith_eq_continued es t).trans (itemsFrom_continued h ht)

/-! ## What is kept -/

theorem kept_append (as bs : List Text) : kept (as ++ bs) = kept as ++ kept bs := by
  rw [kept, List.map_append, List.filter_append]
  rfl

theorem kept_replicate_comma (n : Nat) :
    kept (List.replicate n [',']) = List.replicate n [','] := by
  have hcomma : Text.strip [','] = [','] := by decide
  rw [kept, List.map_replicate, hcomma, List.filter_replicate]
  rfl

/-- Commas are kept of entries if each of them is one, between blanks perhaps. -/
theorem kept_eq_replicate_comma_iff {es : List Text} :
    List.replicate es.length [','] = kept es ↔ ∀ e ∈ es, e.strip = [','] := by
  constructor
  · intro h
    -- As many are kept as there are, so none was dropped.
    have hlength : ((es.map Text.strip).filter (!·.isEmpty)).length =
        (es.map Text.strip).length := by
      rw [List.length_map, ← List.length_replicate (n := es.length) (a := [',']), h, kept]
    have hall := List.filter_eq_self.2 (List.length_filter_eq_length_iff.1 hlength)
    rw [kept, hall] at h
    intro e he
    have hmem : e.strip ∈ List.replicate es.length [','] := h ▸ List.mem_map_of_mem he
    exact List.eq_of_mem_replicate hmem
  · intro h
    have hmap : es.map Text.strip = List.replicate es.length [','] := by
      rw [List.eq_replicate_iff, List.length_map]
      refine ⟨rfl, fun u hu => ?_⟩
      obtain ⟨e, he, rfl⟩ := List.mem_map.1 hu
      exact h e he
    rw [kept, hmap, List.filter_replicate]
    rfl

/-- **The entries are kept as they stand** if and only if there are but commas behind an
empty one. -/
theorem kept_scannedEntries_eq_iff (es : List Text) :
    kept (scannedEntries es) = kept es ↔
      ∀ e ∈ (es.dropWhile (!·.isEmpty)).tail, e.strip = [','] := by
  have hes : kept es = kept (es.takeWhile (!·.isEmpty)) ++ kept (es.dropWhile (!·.isEmpty)) := by
    rw [← kept_append, List.takeWhile_append_dropWhile]
  rw [scannedEntries, kept_append, kept_replicate_comma, hes, List.append_cancel_left_eq]
  cases hback : es.dropWhile (!·.isEmpty) with
  | nil => simp [kept]
  | cons e back =>
    -- The entry at which the scan goes astray is the empty one.
    have hempty : e = [] := by
      have hhead := List.head?_dropWhile_not (!·.isEmpty) es
      rw [hback] at hhead
      simpa using hhead
    subst hempty
    have hkept : kept ([] :: back) = kept back := rfl
    rw [List.length_cons, Nat.add_sub_cancel, List.tail_cons, hkept]
    exact kept_eq_replicate_comma_iff

end Record

open Record

/-! ## Records with entries -/

/-- **A rule with entries for exceptions** reads back with those that the scan takes. -/
theorem Rule.readRule_record_entries {r : Rule} (hs : '"' ∉ r.suffix)
    (hn : r.minStem < 10 ^ numeralLimit) (hr : '"' ∉ r.replacement)
    (he : ∀ e ∈ r.exceptions, '"' ∉ e ∧ '}' ∉ e) :
    readRule r.record = .ok { r with exceptions := kept (scannedEntries r.exceptions) } := by
  have hrecord := Rule.ruleRecord_parts hs hr (fun e hmem => (he e hmem).2) []
  rw [List.append_nil] at hrecord
  have hscan := itemsFrom_entries (fun e hmem => (he e hmem).1) (t := []) List.not_mem_nil
  rw [List.append_nil] at hscan
  refine readRule_eq_ok_iff.2 ⟨r.parts, hrecord, Text.length_ofNat_le numeralLimit_pos hn, ?_⟩
  simp only [Rule.parts, RuleParts.value, Text.decimalValue_ofNat, Option.getD_some,
    quotedItems_eq_kept, hscan]

/-- **A header with entries for conditions** reads back with those that the scan takes. -/
theorem Stage.readHeader_headerLine_entries {s : Stage} (hne : s.name ≠ []) (hq : '"' ∉ s.name)
    (hn : s.minWord < 10 ^ numeralLimit) (hc : ∀ c ∈ s.conditions, '"' ∉ c ∧ c.OneLine) :
    readHeader s.headerLine =
      .ok ⟨s.name, s.minWord, s.wholeWord, kept (scannedEntries s.conditions)⟩ := by
  have hrecord := Stage.headerRecord_parts hne hq fun c hmem => (hc c hmem).2
  have hscan := itemsFrom_entries (fun c hmem => (hc c hmem).1) (t := ['}', ',']) (by decide)
  have hlist : bracedList s.conditions ++ [','] =
      ['{'] ++ (Text.joinWith [','] (s.conditions.map quotedField) ++ ['}', ',']) := by
    simp [bracedList]
  refine readHeader_eq_ok_iff.2
    ⟨s.headerParts, hrecord, Text.length_ofNat_le numeralLimit_pos hn, ?_⟩
  simp only [Stage.headerParts, HeaderParts.value, Text.decimalValue_ofNat, flag_beq_one,
    quotedItems_eq_kept, hlist, itemsFrom_of_no_quote (show '"' ∉ ['{'] by decide), hscan]

/-- **Blank entries are dropped, but an empty one disturbs its neighbours.** Of entries
without a quote mark, a closing brace or a line boundary, a rule gets for its exceptions
and a header for its conditions what the scan takes from them, without blanks at the ends
and without the blank ones. That is what the entries say if and only if behind an empty
entry there are no others, or none but commas. -/
theorem entries_of_records {es : List Text} (h : ∀ e ∈ es, '"' ∉ e ∧ '}' ∉ e ∧ e.OneLine) :
    readRule ("\x7b\"x\",0,\"\",".toList ++ bracedList es ++ ['}']) =
      .ok ⟨['x'], 0, [], kept (scannedEntries es)⟩ ∧
    readHeader ("\x7b \"S\", 0, 0, ".toList ++ bracedList es ++ [',']) =
      .ok ⟨['S'], 0, false, kept (scannedEntries es)⟩ ∧
    (kept (scannedEntries es) = kept es ↔
      ∀ e ∈ (es.dropWhile (!·.isEmpty)).tail, e.strip = [',']) := by
  have hzero : 0 < 10 ^ numeralLimit := Nat.pow_pos (by decide)
  have hrecord : (Rule.mk ['x'] 0 [] es).record =
      "\x7b\"x\",0,\"\",".toList ++ bracedList es ++ ['}'] := by
    simp only [Rule.record, quotedField]
    rfl
  have hline : (Stage.mk ['S'] 0 false es []).headerLine =
      "\x7b \"S\", 0, 0, ".toList ++ bracedList es ++ [','] := by
    simp only [Stage.headerLine, quotedField]
    rfl
  rw [← hrecord, ← hline]
  exact ⟨Rule.readRule_record_entries (show '"' ∉ ['x'] by decide) hzero List.not_mem_nil
      fun e he => ⟨(h e he).1, (h e he).2.1⟩,
    Stage.readHeader_headerLine_entries (List.cons_ne_nil 'S' []) (show '"' ∉ ['S'] by decide) hzero
      fun e he => ⟨(h e he).1, (h e he).2.2⟩,
    kept_scannedEntries_eq_iff es⟩

/-- Of five entries the third is empty: the blank one in front of it is dropped, and
behind it there are two commas. -/
theorem entries_of_records_misread :
    let es : List Text := [[' ', 'a'], [' '], [], ['b'], ['c']]
    (∀ e ∈ es, '"' ∉ e ∧ '}' ∉ e ∧ e.OneLine) ∧
      readRule ("\x7b\"x\",0,\"\",".toList ++ bracedList es ++ ['}']) =
        .ok ⟨['x'], 0, [], [['a'], [','], [',']]⟩ ∧
      kept (scannedEntries es) ≠ kept es := by
  intro es
  have h : ∀ e ∈ es, '"' ∉ e ∧ '}' ∉ e ∧ e.OneLine := by decide
  obtain ⟨hrule, -, hkept⟩ := entries_of_records h
  refine ⟨h, hrule.trans (by decide +kernel), fun heq => ?_⟩
  exact absurd (hkept.1 heq ['b'] (by decide +kernel)) (by decide)

/-- **An empty entry makes a comma of its neighbour**: it is not so that of entries
without a quote mark, a closing brace or a line boundary those that are not blank come
back. -/
theorem not_kept_behind_empty :
    readRule ("\x7b\"x\",0,\"\",".toList ++ bracedList [[], ['a']] ++ ['}']) =
      .ok ⟨['x'], 0, [], [[',']]⟩ ∧
    ¬∀ es : List Text, (∀ e ∈ es, '"' ∉ e ∧ '}' ∉ e ∧ e.OneLine) →
      readRule ("\x7b\"x\",0,\"\",".toList ++ bracedList es ++ ['}']) =
        .ok ⟨['x'], 0, [], kept es⟩ := by
  have hread : readRule ("\x7b\"x\",0,\"\",".toList ++ bracedList [[], ['a']] ++ ['}']) =
      .ok ⟨['x'], 0, [], [[',']]⟩ := by rfl
  refine ⟨hread, fun hall => ?_⟩
  have hclaimed := hall [[], ['a']] (by decide)
  exact absurd (hread.symm.trans hclaimed) (by decide +kernel)

end Desinence
