/-
The conditions of a header, and what stands behind them.

The last field of a header is a list in braces or brackets, and its entries may have
blanks around them. The reader of headers does not look for the end of that list: it
takes the line up to its end, and the scan for quoted items goes on behind the closing
mark. So the conditions are those of the list and then whatever stands in marks
behind it, in a remark for instance. They are those of the list alone only if nothing
but blanks stands in marks there.
-/
import Desinence.Proofs.Record.Entries
import Desinence.Proofs.Record.Spelling

set_option autoImplicit false

namespace Desinence

namespace Record

/-! ## Lists in a line -/

/-- **An entry of a list in a line**, with what stands on the two sides of its marks. -/
structure Entry where
  before : Text
  item : Text
  after : Text

namespace Entry

def text (e : Entry) : Text :=
  e.before ++ quotedField e.item ++ e.after

/-- Blanks on the two sides; between the marks no third one, and not just blanks. -/
structure Fits (e : Entry) : Prop where
  before : Blanks e.before
  no_quote : '"' ∉ e.item
  not_blank : ¬Blanks e.item
  after : Blanks e.after

instance (e : Entry) : Decidable e.Fits :=
  decidable_of_iff (Blanks e.before ∧ '"' ∉ e.item ∧ ¬Blanks e.item ∧ Blanks e.after)
    ⟨fun h => ⟨h.1, h.2.1, h.2.2.1, h.2.2.2⟩,
      fun h => ⟨h.before, h.no_quote, h.not_blank, h.after⟩⟩

end Entry

/-- The mark that closes a list with this opening mark. -/
def closing (opener : Char) : Char :=
  if opener = '[' then ']' else '}'

/-- **A list behind its opening mark**, up to the mark that closes it. The blanks
inside are all there is in a list without entries. -/
def listBehind (opener : Char) (inside : Text) (entries : List Entry) : Text :=
  inside ++ Text.joinWith [','] (entries.map Entry.text) ++ [closing opener]

/-! ## The scan over a list and on -/

theorem Blanks.no_quote {w : Text} (h : Blanks w) : '"' ∉ w := by
  intro hm
  exact absurd (h _ hm) (by decide)

/-- Blanks around an entry make no difference to the scan. -/
theorem Entry.Fits.itemsFrom_text {e : Entry} (h : e.Fits) (t : Text) :
    itemsFrom none (e.text ++ t) = e.item :: itemsFrom none t := by
  have hne : e.item ≠ [] := by
    intro hnil
    exact h.not_blank (hnil ▸ blanks_nil)
  rw [Entry.text, List.append_assoc, List.append_assoc,
    itemsFrom_of_no_quote (Blanks.no_quote h.before), itemsFrom_quotedField hne h.no_quote,
    itemsFrom_of_no_quote (Blanks.no_quote h.after)]

/-- **The scan goes on behind a list**: it takes the items of the list, and then those
of the text that follows. -/
theorem itemsFrom_listBehind {opener : Char} (hopener : opener = '{' ∨ opener = '[')
    {inside : Text} (hinside : Blanks inside) {entries : List Entry}
    (h : ∀ e ∈ entries, e.Fits) (t : Text) :
    itemsFrom none (opener :: listBehind opener inside entries ++ t) =
      entries.map Entry.item ++ itemsFrom none t := by
  have hmark : '"' ∉ [opener] ∧ '"' ∉ [closing opener] := by
    rcases hopener with rfl | rfl <;> decide
  have hsplit : opener :: listBehind opener inside entries ++ t = [opener] ++ (inside ++
      (Text.joinWith [','] (entries.map Entry.text) ++ ([closing opener] ++ t))) := by
    simp [listBehind]
  rw [hsplit, itemsFrom_of_no_quote hmark.1, itemsFrom_of_no_quote (Blanks.no_quote hinside),
    itemsFrom_joinWith_map fun e he => (h e he).itemsFrom_text, itemsFrom_of_no_quote hmark.2]

/-! ## What is kept -/

/-- Of entries that say something, each is kept. -/
theorem kept_eq_map_strip {es : List Text} (h : ∀ e ∈ es, ¬Blanks e) :
    kept es = es.map Text.strip := by
  rw [kept, List.filter_eq_self]
  intro u hu
  obtain ⟨e, he, rfl⟩ := List.mem_map.1 hu
  have hne : e.strip ≠ [] := fun hnil => h e he (Text.strip_eq_nil_iff.1 hnil)
  simpa using hne

/-- Of blank entries none is. -/
theorem kept_eq_nil_iff {es : List Text} : kept es = [] ↔ ∀ e ∈ es, Blanks e := by
  simp [kept, List.filter_eq_nil_iff, Text.strip_eq_nil_iff]

end Record

open Record

/-! ## Headers -/

/-- **The conditions of a header are those of its list, and all that stands in marks
behind it.** Let the last field be a list of entries that are not blank, and any text
without a line feed follow. A length within the limit gives a header, whose conditions
are the items of the list without the blanks at their ends, and then in the same way
those that a scan takes from the text behind the list. These are the conditions of the
list alone if and only if the scan takes nothing but blanks from there. A longer numeral
stops the reading. -/
theorem conditions_of_header {s : HeaderSpelling} (hs : s.Fits) {inside trailing : Text}
    {entries : List Entry} (hinside : Blanks inside) (hentries : ∀ e ∈ entries, e.Fits)
    (htail : s.tail = listBehind s.opener inside entries ++ trailing) :
    let listed : List Text := entries.map fun e => e.item.strip
    (s.minWord.length ≤ numeralLimit → ∃ extra, QuotedScan trailing extra ∧
      readHeader s.text =
        .ok ⟨s.name, s.minWord.decimalValue, s.flag == ['1'], listed ++ kept extra⟩ ∧
      (listed ++ kept extra = listed ↔ ∀ e ∈ extra, Blanks e)) ∧
    (numeralLimit < s.minWord.length →
      readHeader s.text = .error (.longNumeral s.minWord.length)) := by
  intro listed
  have hrecord : HeaderRecord s.parts s.text := headerRecord_iff.2 ⟨s, hs, rfl, rfl⟩
  refine ⟨fun hle => ⟨itemsFrom none trailing, quotedScan_iff.2 rfl, ?_, ?_⟩, fun hlt => ?_⟩
  · have hconditions : quotedItems s.parts.conditions = listed ++ kept (itemsFrom none trailing) := by
      have hitems : ∀ i ∈ entries.map Entry.item, ¬Blanks i := by
        rw [List.forall_mem_map]
        exact fun e he => (hentries e he).not_blank
      rw [quotedItems_eq_kept, HeaderSpelling.parts, htail, ← List.cons_append,
        itemsFrom_listBehind hs.opener hinside hentries, kept_append, kept_eq_map_strip hitems,
        List.map_map]
      rfl
    refine readHeader_eq_ok_iff.2 ⟨s.parts, hrecord, hle, ?_⟩
    rw [HeaderParts.value, hconditions]
    rfl
  · rw [List.append_right_eq_self, kept_eq_nil_iff]
  · rw [readHeader_eq, HeaderParts.read?_eq_some_iff.2 hrecord]
    exact boundedValue_of_lt hlt

/-- A header in its usual spelling, up to the list; what follows the opening mark is left
open. -/
def usualHeader (opener : Char) (tail : Text) : HeaderSpelling :=
  ⟨[' '], ['A'], ⟨[], [' ']⟩, ['3'], ⟨[], [' ']⟩, ['0'], ⟨[], [' ']⟩, opener, tail, false⟩

theorem fits_usualHeader {opener : Char} (hopener : opener = '{' ∨ opener = '[') {tail : Text}
    (htail : '\n' ∉ tail) : (usualHeader opener tail).Fits := by
  have hspace : Blanks [' '] := by decide
  have hcomma : (Comma.mk [] [' ']).Fits := ⟨blanks_nil, hspace⟩
  have hname : '"' ∉ ['A'] := by decide
  have hthree : Text.IsNumeral ['3'] := by decide
  have hzero : Text.IsNumeral ['0'] := by decide
  exact ⟨hspace, hname, List.cons_ne_nil _ _, hcomma, hthree, hcomma, hzero, hcomma, hopener,
    htail⟩

/-- Two conditions in brackets with blanks here and there, and behind the list a remark
with two more items in marks, of which one is blank. -/
theorem conditions_of_header_remark :
    let entries : List Entry := [⟨[' '], ['s'], []⟩, ⟨[], [' ', 'e', 's'], [' ']⟩]
    let trailing : Text := ", # not \"os\" or \" \"".toList
    let s := usualHeader '[' (listBehind '[' [] entries ++ trailing)
    s.Fits ∧ (∀ e ∈ entries, e.Fits) ∧
      s.text = "\x7b \"A\", 3, 0, [ \"s\",\" es\" ], # not \"os\" or \" \"".toList ∧
      readHeader s.text = .ok ⟨['A'], 3, false, [['s'], ['e', 's'], ['o', 's']]⟩ := by
  intro entries trailing s
  have hs : s.Fits := fits_usualHeader (.inr rfl) (by decide)
  have hentries : ∀ e ∈ entries, e.Fits := by decide
  obtain ⟨hread, -⟩ := conditions_of_header hs blanks_nil hentries rfl
  obtain ⟨extra, hscan, hheader, -⟩ := hread (by decide)
  obtain rfl := quotedScan_iff.1 hscan
  exact ⟨hs, hentries, by rfl, hheader.trans (by decide +kernel)⟩

/-- **A remark behind the list adds a condition**: it is not so that the conditions of a
header are the items of its list, whatever follows the list. -/
theorem not_conditions_of_list_alone :
    readHeader "\x7b \"A\", 3, 0, \x7b\"s\"\x7d, # not \"es\"".toList =
      .ok ⟨['A'], 3, false, [['s'], ['e', 's']]⟩ ∧
    ¬∀ (s : HeaderSpelling) (inside trailing : Text) (entries : List Entry), s.Fits →
      Blanks inside → (∀ e ∈ entries, e.Fits ∧ e.item.OneLine) → trailing.OneLine →
      s.tail = listBehind s.opener inside entries ++ trailing →
      ∀ h, readHeader s.text = .ok h → h.conditions = entries.map fun e => e.item.strip := by
  have hread : readHeader "\x7b \"A\", 3, 0, \x7b\"s\"\x7d, # not \"es\"".toList =
      .ok ⟨['A'], 3, false, [['s'], ['e', 's']]⟩ := by rfl
  refine ⟨hread, fun hall => ?_⟩
  let entries : List Entry := [⟨[], ['s'], []⟩]
  let trailing : Text := ", # not \"es\"".toList
  let s := usualHeader '{' (listBehind '{' [] entries ++ trailing)
  have hs : s.Fits := fits_usualHeader (.inl rfl) (by decide)
  have htext : s.text = "\x7b \"A\", 3, 0, \x7b\"s\"\x7d, # not \"es\"".toList := by rfl
  have hclaimed := hall s [] trailing entries hs blanks_nil (by decide) (by decide) rfl _
    (htext ▸ hread)
  exact absurd hclaimed (by decide)

end Desinence
