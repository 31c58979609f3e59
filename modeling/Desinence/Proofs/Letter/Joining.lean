/-
What joining does to the parts of characters.

A character that two others combine into has just their parts, first those of the one
and then those of the other, and it is a starter; and no part has parts of its own. Of
the tables these are facts about which numbers stand in two of their columns, or about
one row at a time; of Hangul they are facts about places of letters.

So a function that reads a text by the parts of its characters reads the same after
joining, as long as it passes over the marks: what joins a starter moves past marks only.
Two such functions are used here. One gives the starters among the parts, for any text;
the other gives all parts, for a text without marks, where joining moves nothing. The
first says that form C hides no starter and shows no new one, the second that form D
undoes the joining of starters. Removing marks is then settled: once it is done there are
none left, not even where starters that stood apart have joined.
-/
import Desinence.Proofs.Letter.Hangul
import Desinence.Proofs.Letter.NormalForm
import Desinence.Proofs.Letter.Parts

set_option autoImplicit false

namespace Desinence

/-! ## Sets of numbers -/

/-- **A set of numbers as the bits of one.** Two of them are compared in one step, however
long their lists are. -/
def bitSet (l : List Nat) : Nat :=
  l.foldr (fun n set => 1 <<< n ||| set) 0

theorem testBit_bitSet (l : List Nat) (n : Nat) : (bitSet l).testBit n = true ↔ n ∈ l := by
  induction l with
  | nil => simp [bitSet]
  | cons m l ih =>
    rw [bitSet, List.foldr_cons, ← bitSet, Nat.testBit_or, Bool.or_eq_true, ih,
      Nat.one_shiftLeft, Nat.testBit_two_pow, decide_eq_true_iff, List.mem_cons, eq_comm]

/-- Sets without a common bit have no common number. -/
theorem not_mem_of_bitSet_and {k l : List Nat} (h : bitSet k &&& bitSet l = 0) {n : Nat}
    (hn : n ∈ k) : n ∉ l := by
  intro hl
  have hbit : (bitSet k &&& bitSet l).testBit n = true := by
    rw [Nat.testBit_and, (testBit_bitSet k n).2 hn, (testBit_bitSet l n).2 hl, Bool.and_self]
  rw [h, Nat.zero_testBit] at hbit
  exact absurd hbit Bool.false_ne_true

/-! ## The tables -/

/-- The composites that the table takes apart. -/
def tableComposites : List Nat :=
  decompositionBlocks.flatMap fun block => block.2.map Prod.fst

/-- The parts of these. -/
def tableParts : List Nat :=
  decompositionBlocks.flatMap fun block => block.2.flatMap Prod.snd

/-- The composites that are put together again. -/
def joinedComposites : List Nat :=
  compositionGroups.flatMap fun group => group.2.map Prod.snd

/-- The marks. -/
def markCodes : List Nat :=
  markRanges.flatMap fun r => List.range' r.1 (r.2.1 + 1 - r.1)

/-- No part is a composite. -/
theorem bitSet_parts_and_composites : bitSet tableParts &&& bitSet tableComposites = 0 := by
  decide +kernel

/-- No composite is a mark if it is put together again. -/
theorem bitSet_joined_and_marks : bitSet joinedComposites &&& bitSet markCodes = 0 := by
  decide +kernel

/-- A number of a character that is no Hangul syllable. -/
def IsTableCode (n : Nat) : Prop :=
  n < Hangul.syllableBase ∨ (0xE000 ≤ n ∧ n < 0x110000)

instance (n : Nat) : Decidable (IsTableCode n) :=
  inferInstanceAs (Decidable (_ ∨ _))

theorem isTableCode_of_mem_tableParts : ∀ n ∈ tableParts, IsTableCode n := by
  decide +kernel

theorem isTableCode_of_mem_compositionGroups : ∀ group ∈ compositionGroups, IsTableCode group.1 ∧
    ∀ entry ∈ group.2, IsTableCode entry.1 ∧ IsTableCode entry.2 := by
  decide +kernel

/-- The full decomposition by the table, in numbers. -/
def tableCodes (n : Nat) : List Nat :=
  ((decompositionBlocks.lookup (n / 64)).bind (·.lookup n)).getD [n]

/-- A part is no composite, so the table does not take it apart. -/
theorem tableCodes_of_mem_tableParts {n : Nat} (h : n ∈ tableParts) : tableCodes n = [n] := by
  rw [tableCodes]
  cases hrow : (decompositionBlocks.lookup (n / 64)).bind (·.lookup n) with
  | none => rfl
  | some codes =>
    obtain ⟨row, hblock, hcodes⟩ := exists_of_lookup_bind hrow
    have hcomposite : n ∈ tableComposites :=
      List.mem_flatMap.2 ⟨_, hblock, List.mem_map.2 ⟨_, hcodes, rfl⟩⟩
    exact absurd hcomposite (not_mem_of_bitSet_and bitSet_parts_and_composites h)

/-- A number of a decomposition is that of a part, or of the character if it is whole. -/
theorem mem_tableCodes {m n : Nat} (h : m ∈ tableCodes n) :
    m ∈ tableParts ∨ (m = n ∧ tableCodes n = [n]) := by
  cases hrow : (decompositionBlocks.lookup (n / 64)).bind (·.lookup n) with
  | none =>
    have hcodes : tableCodes n = [n] := by
      rw [tableCodes, hrow]
      rfl
    rw [hcodes] at h
    exact .inr ⟨List.mem_singleton.1 h, hcodes⟩
  | some codes =>
    rw [tableCodes, hrow] at h
    obtain ⟨row, hblock, hcodes⟩ := exists_of_lookup_bind hrow
    exact .inl (List.mem_flatMap.2 ⟨_, hblock, List.mem_flatMap.2 ⟨_, hcodes, h⟩⟩)

/-- **Parts by the table are whole.** -/
theorem tableCodes_of_mem {m n : Nat} (h : m ∈ tableCodes n) : tableCodes m = [m] := by
  obtain hpart | ⟨rfl, hcodes⟩ := mem_tableCodes h
  · exact tableCodes_of_mem_tableParts hpart
  · exact hcodes

/-- **Row by row**: a composite consists of the two it is joined from, or of the parts of
the first and the second. -/
theorem tableCodes_cases : ∀ group ∈ compositionGroups, ∀ entry ∈ group.2,
    tableCodes entry.2 = [entry.1, group.1] ∨
      tableCodes entry.2 = tableCodes entry.1 ++ [group.1] := by
  decide +kernel

/-- A composite has the parts of both, since what is a part is its own. -/
theorem tableCodes_joined {group : Nat × List (Nat × Nat)} (hgroup : group ∈ compositionGroups)
    {entry : Nat × Nat} (hentry : entry ∈ group.2) :
    tableCodes entry.2 = tableCodes entry.1 ++ tableCodes group.1 := by
  have hcases := tableCodes_cases group hgroup entry hentry
  have hsecond : group.1 ∈ tableCodes entry.2 := by
    obtain h | h := hcases
    · rw [h]
      exact List.mem_cons_of_mem _ List.mem_cons_self
    · rw [h]
      exact List.mem_append_right _ List.mem_cons_self
  rw [tableCodes_of_mem hsecond]
  obtain h | h := hcases
  · have hfirst : entry.1 ∈ tableCodes entry.2 := by
      rw [h]
      exact List.mem_cons_self
    rw [tableCodes_of_mem hfirst, h]
    rfl
  · exact h

/-- The table takes no letter of Hangul apart. -/
theorem tableCodes_of_isLetter {n : Nat} (h : Hangul.IsLetter n) : tableCodes n = [n] := by
  have hblocks : ∀ k < 4, decompositionBlocks.lookup (68 + k) = none := by decide +kernel
  obtain ⟨hle, hlt⟩ := h
  have hk : n / 64 = 68 + (n / 64 - 68) := by omega
  rw [tableCodes, hk, hblocks _ (by omega)]
  rfl

/-! ## One character -/

theorem toNat_ofNat_of_isTableCode {n : Nat} (h : IsTableCode n) : (Char.ofNat n).toNat = n := by
  have hvalid : n.isValidChar := by
    rw [IsTableCode, Hangul.syllableBase] at h
    rw [Nat.isValidChar]
    omega
  rw [Char.ofNat, dif_pos hvalid]
  rfl

theorem toNat_ofNat_syllable {p : Hangul.Places} (h : p.Fit) :
    (Char.ofNat p.syllable).toNat = p.syllable := by
  have hvalid : p.syllable.isValidChar := by
    have hrange := h.syllable_range
    rw [Nat.isValidChar]
    omega
  rw [Char.ofNat, dif_pos hvalid]
  rfl

theorem Hangul.IsLetter.isTableCode {n : Nat} (h : Hangul.IsLetter n) : IsTableCode n := by
  rw [Hangul.IsLetter] at h
  rw [IsTableCode, Hangul.syllableBase]
  omega

/-- Outside Hangul the table decides. -/
theorem decomposeChar_of_not_syllable {c : Char} (h : Hangul.parts? c.toNat = none) :
    decomposeChar c = (tableCodes c.toNat).map Char.ofNat := by
  rw [decomposeChar, h, tableCodes]
  cases (decompositionBlocks.lookup (c.toNat / 64)).bind (·.lookup c.toNat) with
  | some codes => rfl
  | none =>
    have hself : [c] = [Char.ofNat c.toNat] := by rw [Char.ofNat_toNat]
    exact hself

theorem decomposeChar_ofNat {n : Nat} (h : IsTableCode n) :
    decomposeChar (Char.ofNat n) = (tableCodes n).map Char.ofNat := by
  have hn := toNat_ofNat_of_isTableCode h
  have hparts : Hangul.parts? n = none := by
    rw [Option.eq_none_iff_forall_not_mem]
    intro codes hcodes
    obtain ⟨p, hfit, rfl, -⟩ := Hangul.exists_places_of_parts? hcodes
    have hrange := hfit.syllable_range
    rw [IsTableCode, Hangul.syllableBase] at h
    omega
  rw [decomposeChar_of_not_syllable (by rw [hn, hparts]), hn]

/-- The parts of a syllable are its letters. -/
theorem decomposeChar_syllable {p : Hangul.Places} (h : p.Fit) :
    decomposeChar (Char.ofNat p.syllable) = p.letters.map Char.ofNat := by
  rw [decomposeChar, toNat_ofNat_syllable h, h.parts?_syllable]

/-- **Parts are whole**: they are not taken apart any further. -/
theorem decomposeChar_of_mem {c d : Char} (h : d ∈ decomposeChar c) : decomposeChar d = [d] := by
  have hwhole : ∀ n, IsTableCode n → tableCodes n = [n] →
      decomposeChar (Char.ofNat n) = [Char.ofNat n] := by
    intro n hn hcodes
    rw [decomposeChar_ofNat hn, hcodes]
    rfl
  cases hparts : Hangul.parts? c.toNat with
  | some codes =>
    obtain ⟨p, hfit, -, rfl⟩ := Hangul.exists_places_of_parts? hparts
    rw [decomposeChar, hparts] at h
    obtain ⟨n, hn, rfl⟩ := List.mem_map.1 h
    have hletter := hfit.isLetter n hn
    exact hwhole n hletter.isTableCode (tableCodes_of_isLetter hletter)
  | none =>
    rw [decomposeChar_of_not_syllable hparts] at h
    obtain ⟨n, hn, rfl⟩ := List.mem_map.1 h
    obtain hpart | ⟨rfl, hcodes⟩ := mem_tableCodes hn
    · exact hwhole n (isTableCode_of_mem_tableParts n hpart) (tableCodes_of_mem_tableParts hpart)
    · rw [Char.ofNat_toNat, decomposeChar_of_not_syllable hparts, hcodes, List.map_singleton,
        Char.ofNat_toNat]

/-- The parts of a syllable or of a letter of Hangul. -/
theorem decomposeChar_of_letters {c : Char}
    (h : ∀ n ∈ Hangul.lettersOf c.toNat, Hangul.IsLetter n) :
    decomposeChar c = (Hangul.lettersOf c.toNat).map Char.ofNat := by
  rw [Hangul.lettersOf] at h ⊢
  cases hparts : Hangul.parts? c.toNat with
  | some codes =>
    rw [decomposeChar, hparts]
    rfl
  | none =>
    rw [hparts] at h
    have hletter : Hangul.IsLetter c.toNat := h _ List.mem_cons_self
    have hchar := decomposeChar_ofNat hletter.isTableCode
    rw [tableCodes_of_isLetter hletter, Char.ofNat_toNat] at hchar
    exact hchar

/-- **A composite has the parts of the two characters it is joined from.** -/
theorem decomposeChar_of_composePair? {a b c : Char} (h : composePair? a b = some c) :
    decomposeChar c = decomposeChar a ++ decomposeChar b := by
  rw [composePair?] at h
  split at h
  next n hjoin =>
    obtain rfl := Option.some.inj h
    obtain ⟨p, hfit, rfl, hletters⟩ := Hangul.letters_of_join? hjoin
    have hall := hfit.isLetter
    rw [hletters] at hall
    rw [decomposeChar_syllable hfit, hletters, List.map_append,
      decomposeChar_of_letters fun n hn => hall n (List.mem_append_left _ hn),
      decomposeChar_of_letters fun n hn => hall n (List.mem_append_right _ hn)]
  next =>
    obtain ⟨n, hrow, rfl⟩ := Option.map_eq_some_iff.1 h
    obtain ⟨row, hgroup, hentry⟩ := exists_of_lookup_bind hrow
    obtain ⟨hb, hrows⟩ := isTableCode_of_mem_compositionGroups _ hgroup
    obtain ⟨ha, hn⟩ := hrows _ hentry
    have hachar := decomposeChar_ofNat ha
    have hbchar := decomposeChar_ofNat hb
    rw [Char.ofNat_toNat] at hachar hbchar
    rw [decomposeChar_ofNat hn, tableCodes_joined hgroup hentry, List.map_append, hachar, hbchar]

/-! ## Marks -/

/-- The number of a mark is in the table of marks. -/
theorem mem_markCodes {c : Char} (h : isStarter c = false) : c.toNat ∈ markCodes := by
  rw [isStarter, beq_eq_false_iff_ne, combiningClass] at h
  by_cases hlt : c.toNat < 0x300
  · exact absurd (if_pos hlt) h
  · rw [if_neg hlt] at h
    split at h
    next r hfind =>
      have hmem := List.mem_of_find?_eq_some hfind
      have hrange := List.find?_some hfind
      rw [Bool.and_eq_true, decide_eq_true_iff, decide_eq_true_iff] at hrange
      refine List.mem_flatMap.2 ⟨r, hmem, List.mem_range'_1.2 ⟨hrange.1, ?_⟩⟩
      omega
    next => exact absurd rfl h

/-- **What is joined is a starter.** -/
theorem isStarter_of_composePair? {a b c : Char} (h : composePair? a b = some c) :
    isStarter c = true := by
  have hsyllables : ∀ n ∈ markCodes, n < 0xAC00 ∨ 0xD7A4 ≤ n := by decide +kernel
  by_contra hmark
  rw [Bool.not_eq_true] at hmark
  have hcode := mem_markCodes hmark
  rw [composePair?] at h
  split at h
  next n hjoin =>
    obtain rfl := Option.some.inj h
    obtain ⟨p, hfit, rfl, -⟩ := Hangul.letters_of_join? hjoin
    rw [toNat_ofNat_syllable hfit] at hcode
    have hrange := hfit.syllable_range
    have hout := hsyllables _ hcode
    omega
  next =>
    obtain ⟨n, hrow, rfl⟩ := Option.map_eq_some_iff.1 h
    obtain ⟨row, hgroup, hentry⟩ := exists_of_lookup_bind hrow
    rw [toNat_ofNat_of_isTableCode ((isTableCode_of_mem_compositionGroups _ hgroup).2 _ hentry).2]
      at hcode
    have hjoined : n ∈ joinedComposites :=
      List.mem_flatMap.2 ⟨_, hgroup, List.mem_map.2 ⟨_, hentry, rfl⟩⟩
    exact not_mem_of_bitSet_and bitSet_joined_and_marks hjoined hcode

/-! ## Texts read by parts -/

/-- **A reading by parts** gives of a composite what it gives of the two characters, one
behind the other. -/
def ReadsByParts (f : Char → Text) : Prop :=
  ∀ a b c, composePair? a b = some c → f c = f a ++ f b

section Reading

variable {f : Char → Text} {t : Text}

/-- Joining a starter with what follows it does not show in a reading by parts that passes
over the marks. The induction is on what follows, for any starter and whatever it did not
combine with, which is nothing but marks. -/
theorem ReadsByParts.flatMap_composeFrom (hf : ReadsByParts f)
    (ht : ∀ d ∈ t, isStarter d = false → f d = []) (starter : Char) {passed : Text}
    (hpassed : ∀ d ∈ passed, f d = []) :
    (composeFrom starter passed t).flatMap f = f starter ++ t.flatMap f := by
  induction t generalizing starter passed with
  | nil => rw [composeFrom, List.flatMap_cons, List.flatMap_eq_nil_iff.2 hpassed, List.flatMap_nil]
  | cons c r ih =>
    have hr : ∀ d ∈ r, isStarter d = false → f d = [] := fun d hd => ht d (List.mem_cons_of_mem c hd)
    rw [composeFrom, List.flatMap_cons]
    split
    next composite hjoin =>
      have hpair := (Option.ite_none_left_eq_some.1 hjoin).2
      rw [ih hr composite hpassed, hf _ _ _ hpair, List.append_assoc]
    next =>
      split
      next =>
        rw [List.flatMap_append, List.flatMap_cons, List.flatMap_eq_nil_iff.2 hpassed,
          ih hr c fun d hd => absurd hd List.not_mem_nil, List.append_nil]
      next hmark =>
        have hc : f c = [] := ht c List.mem_cons_self (Bool.not_eq_true _ ▸ hmark)
        have hmore : ∀ d ∈ passed ++ [c], f d = [] := by
          intro d hd
          obtain hd | hd := List.mem_append.1 hd
          · exact hpassed d hd
          · rw [List.mem_singleton.1 hd, hc]
        rw [ih hr starter hmore, hc, List.nil_append]

/-- **Joining does not show** in a reading by parts that passes over the marks. -/
theorem ReadsByParts.flatMap_composeText (hf : ReadsByParts f)
    (ht : ∀ d ∈ t, isStarter d = false → f d = []) : (composeText t).flatMap f = t.flatMap f := by
  induction t with
  | nil => rfl
  | cons c r ih =>
    have hr : ∀ d ∈ r, isStarter d = false → f d = [] := fun d hd => ht d (List.mem_cons_of_mem c hd)
    rw [composeText]
    split
    · rw [hf.flatMap_composeFrom hr c fun d hd => absurd hd List.not_mem_nil, List.flatMap_cons]
    · rw [List.flatMap_cons, List.flatMap_cons, ih hr]

end Reading

/-- The parts of characters are such a reading. -/
theorem readsByParts_decomposeChar : ReadsByParts decomposeChar :=
  fun _ _ _ => decomposeChar_of_composePair?

/-- The starters among the parts of a character. -/
def starterParts (c : Char) : Text :=
  (decomposeChar c).filter isStarter

/-- So are the starters among them. -/
theorem readsByParts_starterParts : ReadsByParts starterParts := by
  intro a b c h
  rw [starterParts, decomposeChar_of_composePair? h, List.filter_append]
  rfl

/-! ## The normal forms, one after the other -/

section Forms

variable {t : Text}

theorem decomposeChar_of_mem_decomposed {d : Char} (h : d ∈ decomposed t) :
    decomposeChar d = [d] := by
  obtain ⟨c, -, hd⟩ := mem_decomposed.1 h
  exact decomposeChar_of_mem hd

/-- Of whole characters the starters are the starters among their parts. -/
theorem flatMap_starterParts (h : ∀ d ∈ t, decomposeChar d = [d]) :
    t.flatMap starterParts = t.filter isStarter := by
  have hparts : t.flatMap starterParts = t.flatMap fun d => [d].filter isStarter :=
    List.flatMap_congr fun d hd => by rw [starterParts, h d hd]
  rw [hparts, ← List.filter_flatMap, List.flatMap_singleton']

/-- **Form C shows the starters of form D**, no other and in the same order. -/
theorem filter_isStarter_decomposed_composed (t : Text) :
    (decomposed (composed t)).filter isStarter = (decomposed t).filter isStarter := by
  have hwhole : ∀ d ∈ decomposed t, decomposeChar d = [d] :=
    fun d hd => decomposeChar_of_mem_decomposed hd
  have hmarks : ∀ d ∈ decomposed t, isStarter d = false → starterParts d = [] := by
    intro d hd hmark
    have hnot : ¬isStarter d = true := Bool.not_eq_true _ ▸ hmark
    rw [starterParts, hwhole d hd, List.filter_cons_of_neg hnot, List.filter_nil]
  calc (decomposed (composed t)).filter isStarter
      = (composed t).flatMap starterParts := filter_isStarter_decomposed (composed t)
    _ = (decomposed t).flatMap starterParts :=
        readsByParts_starterParts.flatMap_composeText hmarks
    _ = (decomposed t).filter isStarter := flatMap_starterParts hwhole

/-- Whole starters are their own form D. -/
theorem decomposed_of_whole (hwhole : ∀ c ∈ t, decomposeChar c = [c])
    (hstarters : ∀ c ∈ t, isStarter c = true) : decomposed t = t := by
  rw [decomposed, List.flatMap_congr hwhole, List.flatMap_singleton',
    orderMarks_of_isStarter hstarters]

/-- Joined starters are starters. -/
theorem isStarter_of_mem_composeText (h : ∀ c ∈ t, isStarter c = true) :
    ∀ c ∈ composeText t, isStarter c = true :=
  forall_mem_composeText (fun _ _ _ => isStarter_of_composePair?) h

/-- **Form D undoes the joining of starters.** -/
theorem decomposed_composeText (hwhole : ∀ c ∈ t, decomposeChar c = [c])
    (hstarters : ∀ c ∈ t, isStarter c = true) : decomposed (composeText t) = t := by
  have hparts : (composeText t).flatMap decomposeChar = t := by
    rw [readsByParts_decomposeChar.flatMap_composeText fun d hd hmark => ?_,
      List.flatMap_congr hwhole, List.flatMap_singleton']
    rw [hstarters d hd] at hmark
    exact absurd hmark (by decide)
  rw [decomposed, hparts, orderMarks_of_isStarter hstarters]

end Forms

/-! ## Without marks -/

namespace Text

variable {t : Text}

/-- What is left of form D without its marks. -/
theorem mem_filter_isStarter_decomposed {c : Char} (h : c ∈ (decomposed t).filter isStarter) :
    decomposeChar c = [c] ∧ isStarter c = true := by
  obtain ⟨hc, hstarter⟩ := List.mem_filter.1 h
  exact ⟨decomposeChar_of_mem_decomposed hc, hstarter⟩

/-- The starters of form D, joined. -/
theorem withoutAccents_eq (t : Text) :
    t.withoutAccents = composeText ((decomposed t).filter isStarter) := by
  rw [withoutAccents, composed, decomposed_of_whole
    (fun c hc => (mem_filter_isStarter_decomposed hc).1)
    fun c hc => (mem_filter_isStarter_decomposed hc).2]

/-- **The form D of a text without its marks** is the form D of the text, without its
marks. -/
theorem decomposed_withoutAccents (t : Text) :
    decomposed t.withoutAccents = (decomposed t).filter isStarter := by
  rw [withoutAccents_eq, decomposed_composeText
    (fun c hc => (mem_filter_isStarter_decomposed hc).1)
    fun c hc => (mem_filter_isStarter_decomposed hc).2]

/-- **Removing the marks of a text.** None is left, of whatever class, also where starters
have joined that stood apart. A second removal finds nothing to do, and the form C of a
text loses the same marks as the text. Nothing else is lost: taken apart, the result is
the text taken apart, less the marks. -/
theorem effect_of_withoutAccents (t : Text) :
    (∀ c ∈ t.withoutAccents, combiningClass c = 0) ∧
      t.withoutAccents.withoutAccents = t.withoutAccents ∧
      (composed t).withoutAccents = t.withoutAccents ∧
      decomposed t.withoutAccents = (decomposed t).filter isStarter := by
  refine ⟨fun c hc => ?_, ?_, ?_, decomposed_withoutAccents t⟩
  · rw [withoutAccents_eq] at hc
    have hstarter := isStarter_of_mem_composeText
      (fun d hd => (mem_filter_isStarter_decomposed hd).2) c hc
    rwa [isStarter, beq_iff_eq] at hstarter
  · rw [withoutAccents_eq t.withoutAccents, decomposed_withoutAccents, List.filter_filter,
      withoutAccents_eq t]
    simp only [Bool.and_self]
  · rw [withoutAccents_eq, filter_isStarter_decomposed_composed, withoutAccents_eq]

/-- A vowel of Hangul joins the consonant it was parted from by a mark, and two halves of
a vowel sign of Bengali join behind their consonant. -/
example :
    withoutAccents "\u1100\u0301\u1161 \u0995\u09C7\u0302\u09BE".toList =
      "\uAC00 \u0995\u09CB".toList := by
  decide +kernel

end Text

end Desinence
