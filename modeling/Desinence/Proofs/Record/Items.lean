/-
The items of a quoted list.

The list is scanned from quote mark to quote mark. Text without a quote mark
between two items has no effect, and an item in its marks is found whatever
follows it, so a written list is read back item by item. Of any text at all the
scan returns items that are not empty, hold no quote mark, have no blank at
either end, and are made of characters of that text.

What the scan finds is said once more without the scan's own state: a match is a
stretch between two quote marks that is neither empty nor broken by a third, and
`QuotedScan` takes a match wherever one begins and passes a character where none
does. The items are what it takes, because a quote mark with no match behind it opens
nothing that could still be closed.
-/
import Desinence.Layout
import Desinence.Proofs.Text.Blank

set_option autoImplicit false

namespace Desinence

namespace Record

/-! ## What the scan can return -/

/-- **Items hold no quote mark** and take their characters from the text. The
induction is on the text, for every item that may be open in front of it. -/
theorem itemsFrom_sound (t : Text) {opened : Option Text} {item : Text}
    (h : item ∈ itemsFrom opened t) (hq : ∀ o ∈ opened, '"' ∉ o) :
    '"' ∉ item ∧ ∀ c ∈ item, (∃ o ∈ opened, c ∈ o) ∨ c ∈ t := by
  induction t generalizing opened with
  | nil => simp [itemsFrom] at h
  | cons d r ih =>
    -- The characters of an item found further on come from `r`, or from what was
    -- open there.
    have widen : ∀ {o' : Option Text},
        (∀ x ∈ o', ∀ c ∈ x, (∃ o ∈ opened, c ∈ o) ∨ c ∈ d :: r) →
        ('"' ∉ item ∧ ∀ c ∈ item, (∃ o ∈ o', c ∈ o) ∨ c ∈ r) →
        '"' ∉ item ∧ ∀ c ∈ item, (∃ o ∈ opened, c ∈ o) ∨ c ∈ d :: r := by
      rintro o' ho ⟨hi, hc⟩
      refine ⟨hi, fun c hci => ?_⟩
      rcases hc c hci with ⟨x, hx, hcx⟩ | hcr
      · exact ho x hx c hcx
      · exact .inr (List.mem_cons_of_mem _ hcr)
    cases opened with
    | none =>
      rw [itemsFrom] at h
      by_cases hd : d = '"'
      · rw [if_pos hd] at h
        exact widen (by simp) (ih h (by simp))
      · rw [if_neg hd] at h
        exact widen (by simp) (ih h (by simp))
    | some o =>
      have ho : '"' ∉ o := hq o rfl
      simp only [itemsFrom] at h
      by_cases hd : d = '"'
      · rw [if_pos hd] at h
        split at h
        · exact widen (by simp) (ih h (by simp))
        · rcases List.mem_cons.1 h with rfl | h
          · exact ⟨ho, fun c hc => .inl ⟨item, rfl, hc⟩⟩
          · exact widen (by simp) (ih h (by simp))
      · rw [if_neg hd] at h
        refine widen ?_ (ih h ?_)
        · intro x hx c hc
          simp only [Option.mem_some_iff] at hx
          subst hx
          rcases List.mem_append.1 hc with hc | hc
          · exact .inl ⟨o, rfl, hc⟩
          · rw [List.mem_singleton.1 hc]
            exact .inr List.mem_cons_self
        · intro x hx hm
          simp only [Option.mem_some_iff] at hx
          subst hx
          rcases List.mem_append.1 hm with hm | hm
          · exact ho hm
          · exact hd (List.mem_singleton.1 hm).symm

/-- **What a quoted list yields**: no empty item, none with a quote mark or with
a blank at an end, and only characters of the list. -/
theorem quotedItems_sound {t e : Text} (h : e ∈ quotedItems t) :
    e ≠ [] ∧ e.strip = e ∧ '"' ∉ e ∧ ∀ c ∈ e, c ∈ t := by
  simp only [quotedItems, List.mem_filter, List.mem_map] at h
  obtain ⟨⟨item, hi, rfl⟩, hne⟩ := h
  obtain ⟨hq, hc⟩ := itemsFrom_sound t hi (by simp)
  refine ⟨?_, Text.strip_strip item, fun hm => hq (Text.mem_of_mem_strip hm), fun c hm => ?_⟩
  · simpa using hne
  · simpa using hc c (Text.mem_of_mem_strip hm)

/-! ## Reading a list that was written -/

theorem itemsFrom_of_no_quote {a : Text} (ha : '"' ∉ a) (t : Text) :
    itemsFrom none (a ++ t) = itemsFrom none t := by
  induction a with
  | nil => rfl
  | cons c a ih =>
    have hc : c ≠ '"' := fun he => ha (he ▸ List.mem_cons_self)
    rw [List.cons_append, itemsFrom, if_neg hc]
    exact ih fun hm => ha (List.mem_cons_of_mem _ hm)

theorem itemsFrom_some_append {e : Text} (he : '"' ∉ e) (o t : Text) :
    itemsFrom (some o) (e ++ t) = itemsFrom (some (o ++ e)) t := by
  induction e generalizing o with
  | nil => rw [List.nil_append, List.append_nil]
  | cons c e ih =>
    have hc : c ≠ '"' := fun h => he (h ▸ List.mem_cons_self)
    simp only [List.cons_append, itemsFrom, if_neg hc]
    rw [ih fun hm => he (List.mem_cons_of_mem _ hm), List.append_assoc, List.singleton_append]

/-- An item in its marks is the next item. -/
theorem itemsFrom_quotedField {e : Text} (hne : e ≠ []) (he : '"' ∉ e) (t : Text) :
    itemsFrom none (quotedField e ++ t) = e :: itemsFrom none t := by
  have ht : quotedField e ++ t = '"' :: (e ++ '"' :: t) := by simp [quotedField]
  rw [ht, itemsFrom, if_pos rfl, itemsFrom_some_append he, List.nil_append]
  simp [itemsFrom, hne]

/-- **A list with commas is read item by item**, in front of any text, if that is how
each of its entries is read. -/
theorem itemsFrom_joinWith_map {α : Type} {text item : α → Text} {xs : List α}
    (h : ∀ x ∈ xs, ∀ t, itemsFrom none (text x ++ t) = item x :: itemsFrom none t) (t : Text) :
    itemsFrom none (Text.joinWith [','] (xs.map text) ++ t) = xs.map item ++ itemsFrom none t := by
  induction xs with
  | nil => rfl
  | cons x xs ih =>
    rw [List.forall_mem_cons] at h
    cases xs with
    | nil => exact h.1 t
    | cons y ys =>
      have hjoin : Text.joinWith [','] ((x :: y :: ys).map text) ++ t
          = text x ++ ([','] ++ (Text.joinWith [','] ((y :: ys).map text) ++ t)) := by
        simp [Text.joinWith]
      rw [hjoin, h.1, itemsFrom_of_no_quote (by decide), ih h.2]
      rfl

/-- **A written list is read back**, in front of any text. -/
theorem itemsFrom_joinWith {es : List Text} (h : ∀ e ∈ es, e ≠ [] ∧ '"' ∉ e) (t : Text) :
    itemsFrom none (Text.joinWith [','] (es.map quotedField) ++ t) = es ++ itemsFrom none t := by
  have hread : itemsFrom none (Text.joinWith [','] (es.map quotedField) ++ t) =
      es.map id ++ itemsFrom none t :=
    itemsFrom_joinWith_map (fun e he t => itemsFrom_quotedField (h e he).1 (h e he).2 t) t
  rwa [List.map_id] at hread

/-- Items that are their own strips pass the two filters of a list. -/
theorem quotedItems_eq_of_itemsFrom {t : Text} {es : List Text} (ht : itemsFrom none t = es)
    (h : ∀ e ∈ es, e ≠ [] ∧ e.strip = e) : quotedItems t = es := by
  have hmap : es.map Text.strip = es := by
    rw [List.map_congr_left (g := id) fun e he => (h e he).2, List.map_id]
  rw [quotedItems, ht, hmap, List.filter_eq_self]
  intro e he
  simpa using (h e he).1

/-- The list in its braces, with text behind it that has no quote mark. -/
theorem quotedItems_bracedList {es : List Text}
    (h : ∀ e ∈ es, e ≠ [] ∧ e.strip = e ∧ '"' ∉ e) {t : Text} (ht : '"' ∉ t) :
    quotedItems (bracedList es ++ t) = es := by
  have hb : bracedList es ++ t
      = ['{'] ++ (Text.joinWith [','] (es.map quotedField) ++ ('}' :: t)) := by
    simp [bracedList]
  have hend : itemsFrom none ('}' :: t) = [] := by
    have hno : '"' ∉ '}' :: t := by simpa using ht
    have hnil := itemsFrom_of_no_quote hno []
    rwa [List.append_nil] at hnil
  apply quotedItems_eq_of_itemsFrom
  · rw [hb, itemsFrom_of_no_quote (by decide),
      itemsFrom_joinWith fun e he => ⟨(h e he).1, (h e he).2.2⟩, hend, List.append_nil]
  · exact fun e he => ⟨(h e he).1, (h e he).2.1⟩

/-- The inside of the braces by itself. -/
theorem quotedItems_joinWith {es : List Text}
    (h : ∀ e ∈ es, e ≠ [] ∧ e.strip = e ∧ '"' ∉ e) :
    quotedItems (Text.joinWith [','] (es.map quotedField)) = es := by
  have hjoin := itemsFrom_joinWith (fun e he => ⟨(h e he).1, (h e he).2.2⟩) []
  rw [List.append_nil, itemsFrom, List.append_nil] at hjoin
  exact quotedItems_eq_of_itemsFrom hjoin fun e he => ⟨(h e he).1, (h e he).2.1⟩

/-! ## From match to match -/

/-- **The scan for quoted items**: at each place it takes a match if one begins there,
and passes a character if none does. -/
inductive QuotedScan : Text → List Text → Prop
  | nil : QuotedScan [] []
  | hit {item rest : Text} {items : List Text} : item ≠ [] → '"' ∉ item →
      QuotedScan rest items → QuotedScan ('"' :: item ++ '"' :: rest) (item :: items)
  | skip {c : Char} {rest : Text} {items : List Text} :
      (∀ item back, item ≠ [] → '"' ∉ item → c :: rest ≠ '"' :: item ++ '"' :: back) →
      QuotedScan rest items → QuotedScan (c :: rest) items

/-- What is opened and not closed is no item. -/
theorem itemsFrom_of_unclosed {t : Text} (ht : '"' ∉ t) (opened : Option Text) :
    itemsFrom opened t = [] := by
  induction t generalizing opened with
  | nil => rfl
  | cons c r ih =>
    have hc : c ≠ '"' := fun h => ht (h ▸ List.mem_cons_self)
    have hr : '"' ∉ r := fun h => ht (List.mem_cons_of_mem _ h)
    cases opened with
    | none => rw [itemsFrom, if_neg hc, ih hr]
    | some item => simp only [itemsFrom, if_neg hc, ih hr]

/-- **Where no match begins** the first character makes no difference, be it a quote
mark or not. -/
theorem itemsFrom_of_no_match {c : Char} {rest : Text}
    (h : ∀ item back, item ≠ [] → '"' ∉ item → c :: rest ≠ '"' :: item ++ '"' :: back) :
    itemsFrom none (c :: rest) = itemsFrom none rest := by
  by_cases hc : c = '"'
  · subst hc
    rw [itemsFrom, if_pos rfl]
    cases rest with
    | nil => rfl
    | cons d r =>
      by_cases hd : d = '"'
      · -- Of two marks in a row the second opens, whether or not the first did.
        subst hd
        rfl
      · -- A mark further on would close a match that begins here.
        have hrest : '"' ∉ d :: r := by
          intro hm
          obtain ⟨item, back, hsplit, hitem⟩ := List.eq_append_cons_of_mem hm
          refine h item back ?_ hitem (by rw [hsplit, List.cons_append])
          rintro rfl
          exact hd (List.cons.inj hsplit).1
        rw [itemsFrom_of_unclosed hrest, itemsFrom_of_unclosed hrest]
  · rw [itemsFrom, if_neg hc]

theorem QuotedScan.itemsFrom_eq {t : Text} {items : List Text} (h : QuotedScan t items) :
    itemsFrom none t = items := by
  induction h with
  | nil => rfl
  | @hit item rest items hne hitem _ ih =>
    have ht : '"' :: item ++ '"' :: rest = quotedField item ++ rest := by simp [quotedField]
    rw [ht, itemsFrom_quotedField hne hitem, ih]
  | skip hno _ ih => rw [itemsFrom_of_no_match hno, ih]

/-- A scan never gets stuck. The induction is on the length, since a match may be
long. -/
theorem exists_quotedScan (t : Text) : ∃ items, QuotedScan t items := by
  induction hn : t.length using Nat.strongRecOn generalizing t with
  | ind n ih =>
    subst hn
    cases t with
    | nil => exact ⟨[], .nil⟩
    | cons c r =>
      by_cases hmatch : ∃ item back, item ≠ [] ∧ '"' ∉ item ∧ c :: r = '"' :: item ++ '"' :: back
      · obtain ⟨item, back, hne, hitem, ht⟩ := hmatch
        have hlength : back.length < (c :: r).length := by
          rw [ht, List.length_append, List.length_cons, List.length_cons]
          omega
        obtain ⟨items, hscan⟩ := ih back.length hlength back rfl
        exact ⟨item :: items, ht ▸ .hit hne hitem hscan⟩
      · have hno : ∀ item back, item ≠ [] → '"' ∉ item → c :: r ≠ '"' :: item ++ '"' :: back :=
          fun item back hne hitem ht => hmatch ⟨item, back, hne, hitem, ht⟩
        obtain ⟨items, hscan⟩ := ih r.length (Nat.lt_succ_self _) r rfl
        exact ⟨items, .skip hno hscan⟩

/-- **The items of a list are those that the scan takes.** -/
theorem quotedScan_iff {t : Text} {items : List Text} :
    QuotedScan t items ↔ itemsFrom none t = items := by
  refine ⟨QuotedScan.itemsFrom_eq, ?_⟩
  rintro rfl
  obtain ⟨items, hscan⟩ := exists_quotedScan t
  rwa [hscan.itemsFrom_eq]

/-- **What of a list says something**: its entries without the blanks at their ends,
those that were nothing but blanks left out. -/
def kept (entries : List Text) : List Text :=
  (entries.map Text.strip).filter (!·.isEmpty)

theorem quotedItems_eq_kept (t : Text) : quotedItems t = kept (itemsFrom none t) := rfl

end Record

end Desinence
