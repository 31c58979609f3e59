/-
What a text spells is what is read of it.

A reader in the middle of its work has a stack of frames around it. `Closes` says, in terms
of the grammar alone, what such a stack still demands of the tokens once a value inside it
is complete, and `Demands` says it of a reader in any state. A token that the reader takes
turns one demand into the next (`demands_cons_iff`), so a run of the reader ends well exactly
if the tokens meet the demand that it begins with (`finish_eq_ok_iff`), and that is to derive
a value.
-/
import Desinence.Json.Reader
import Desinence.Proofs.Json.Lexing

set_option autoImplicit false

namespace Desinence

namespace Json

/-! ## Demands -/

/-- Parts behind another one, each with a comma in front. -/
def commaBefore (parts : List (List Token)) : List Token :=
  parts.flatMap (.comma :: ·)

theorem intercalate_comma_cons (part : List Token) (parts : List (List Token)) :
    [Token.comma].intercalate (part :: parts) = part ++ commaBefore parts := by
  induction parts generalizing part with
  | nil => rw [List.intercalate_singleton, commaBefore, List.flatMap_nil, List.append_nil]
  | cons p ps ih =>
    rw [List.intercalate_cons_cons, ih, commaBefore, commaBefore, List.flatMap_cons,
      List.append_assoc]
    rfl

/-- More items of an array and its end; `outer` is the demand behind that. -/
def MoreItems (depth : Nat) (outer : JsonValue → List Token → Prop) (items : List JsonValue)
    (ts : List Token) : Prop :=
  ∃ (more : List (List Token × JsonValue)) (rest : List Token),
    (∀ item ∈ more, Derives (depth + 1) item.1 item.2) ∧
      ts = commaBefore (more.map fun item => item.1) ++ .closeArray :: rest ∧
        outer (.array (items.reverse ++ more.map fun item => item.2)) rest

/-- More members of an object and its end. -/
def MoreMembers (depth : Nat) (outer : JsonValue → List Token → Prop) (fields : Fields)
    (ts : List Token) : Prop :=
  ∃ (more : List (Glyphs × List Token × JsonValue)) (rest : List Token),
    (∀ m ∈ more, Derives (depth + 1) m.2.1 m.2.2) ∧
      ts = commaBefore (more.map fun m => .string m.1 :: .colon :: m.2.1) ++ .closeObject :: rest ∧
        outer (objectWith (fields.reverse ++ more.map fun m => (m.1, m.2.2))) rest

/-- **What frames demand** of the tokens behind a value inside them, for the whole to be the
value `v`. -/
def Closes (v : JsonValue) : List Frame → JsonValue → List Token → Prop
  | [], u, ts => u = v ∧ ts = []
  | .item items :: frames, u, ts => MoreItems frames.length (Closes v frames) (u :: items) ts
  | .field fields key :: frames, u, ts =>
    MoreMembers frames.length (Closes v frames) ((key, u) :: fields) ts

/-- A value inside the frames, and what they demand behind it. -/
def ValueAhead (v : JsonValue) (frames : List Frame) (ts : List Token) : Prop :=
  ∃ front u rest, ts = front ++ rest ∧ Derives frames.length front u ∧ Closes v frames u rest

/-- A key, a colon and a value. -/
def MemberAhead (v : JsonValue) (frames : List Frame) (fields : Fields) (ts : List Token) : Prop :=
  ∃ key rest, ts = .string key :: .colon :: rest ∧ ValueAhead v (.field fields key :: frames) rest

/-- **What a reader demands** of the tokens before it. -/
def Demands (v : JsonValue) (r : Reader) (ts : List Token) : Prop :=
  match r.expected with
  | .value => ValueAhead v r.frames ts
  | .itemOrEnd =>
    (∃ rest, ts = .closeArray :: rest ∧ Closes v r.frames (.array []) rest) ∨
      ValueAhead v (.item [] :: r.frames) ts
  | .keyOrEnd =>
    (∃ rest, ts = .closeObject :: rest ∧ Closes v r.frames (.object []) rest) ∨
      MemberAhead v r.frames [] ts
  | .key fields => MemberAhead v r.frames fields ts
  | .colon fields key =>
    ∃ rest, ts = .colon :: rest ∧ ValueAhead v (.field fields key :: r.frames) rest
  | .afterItem items => MoreItems r.frames.length (Closes v r.frames) items ts
  | .afterField fields => MoreMembers r.frames.length (Closes v r.frames) fields ts
  | .nothing u => u = v ∧ ts = []

variable {v : JsonValue} {frames : List Frame} {token : Token} {ts : List Token}

theorem demands_settle {u : JsonValue} :
    Demands v (Reader.settle u frames) ts ↔ Closes v frames u ts := by
  cases frames with
  | nil => exact Iff.rfl
  | cons frame frames => cases frame <;> exact Iff.rfl

/-! ## Arrays and objects -/

theorem objectOf_eq (fields : Fields) : objectOf fields = objectWith fields.reverse := by
  rw [objectOf, objectWith, List.foldl_reverse]

/-- **The inside of an array**, behind its opening bracket. -/
theorem demands_itemOrEnd_iff : Demands v ⟨frames, .itemOrEnd⟩ ts ↔
    ∃ (items : List (List Token × JsonValue)) (rest : List Token),
      (∀ item ∈ items, Derives (frames.length + 1) item.1 item.2) ∧
        ts = [Token.comma].intercalate (items.map fun item => item.1) ++ .closeArray :: rest ∧
          Closes v frames (.array (items.map fun item => item.2)) rest := by
  constructor
  · rintro (⟨rest, rfl, hcloses⟩ | ⟨front, u, rest, rfl, hfront, more, rest', hmore, rfl, hcloses⟩)
    · exact ⟨[], rest, by simp, rfl, hcloses⟩
    -- The first item has no comma in front, so the reader meets it apart from the others.
    · refine ⟨(front, u) :: more, rest', List.forall_mem_cons.2 ⟨hfront, hmore⟩, ?_, hcloses⟩
      rw [List.map_cons, intercalate_comma_cons, List.append_assoc]
  · rintro ⟨items, rest, hitems, rfl, hcloses⟩
    cases items with
    | nil => exact .inl ⟨rest, rfl, hcloses⟩
    | cons item items =>
      obtain ⟨hitem, hitems⟩ := List.forall_mem_cons.1 hitems
      refine .inr ⟨item.1, item.2, _, ?_, hitem, items, rest, hitems, rfl, hcloses⟩
      rw [List.map_cons, intercalate_comma_cons, List.append_assoc]

/-- **The inside of an object**, behind its opening brace. -/
theorem demands_keyOrEnd_iff : Demands v ⟨frames, .keyOrEnd⟩ ts ↔
    ∃ (members : List (Glyphs × List Token × JsonValue)) (rest : List Token),
      (∀ m ∈ members, Derives (frames.length + 1) m.2.1 m.2.2) ∧
        ts = [Token.comma].intercalate (members.map fun m => .string m.1 :: .colon :: m.2.1) ++
          .closeObject :: rest ∧
          Closes v frames (objectWith (members.map fun m => (m.1, m.2.2))) rest := by
  constructor
  · rintro (⟨rest, rfl, hcloses⟩ |
      ⟨key, _, rfl, front, u, rest, rfl, hfront, more, rest', hmore, rfl, hcloses⟩)
    · exact ⟨[], rest, by simp, rfl, hcloses⟩
    · refine ⟨(key, front, u) :: more, rest', List.forall_mem_cons.2 ⟨hfront, hmore⟩, ?_, hcloses⟩
      rw [List.map_cons, intercalate_comma_cons, List.append_assoc]
      rfl
  · rintro ⟨members, rest, hmembers, rfl, hcloses⟩
    cases members with
    | nil => exact .inl ⟨rest, rfl, hcloses⟩
    | cons m members =>
      obtain ⟨hm, hmembers⟩ := List.forall_mem_cons.1 hmembers
      refine .inr ⟨m.1, _, ?_, m.2.1, m.2.2, _, rfl, hm, members, rest, hmembers, rfl, hcloses⟩
      rw [List.map_cons, intercalate_comma_cons, List.append_assoc]
      rfl

/-! ## One token -/

theorem enter_eq_ok_iff {expected : Expected} {r : Reader} :
    Reader.enter frames expected = .ok r ↔ frames.length < 960 ∧ r = ⟨frames, expected⟩ := by
  have hlimit : nestingLimit = 960 := rfl
  rw [Reader.enter, hlimit]
  split
  next h => simp [h, eq_comm]
  next h => simp [h]

/-- A value that is derived is begun with its first token. -/
theorem exists_of_valueAhead (h : ValueAhead v frames (token :: ts)) :
    ∃ r, Reader.beginValue frames token = .ok r ∧ Demands v r ts := by
  obtain ⟨front, u, rest, htext, hfront, hcloses⟩ := h
  cases hfront with
  | null | bool | string | number =>
    -- The token is the whole value, and what is behind it is for the frames.
    obtain ⟨rfl, rfl⟩ := List.cons.inj htext
    exact ⟨_, rfl, demands_settle.2 hcloses⟩
  | integer hlimit =>
    obtain ⟨rfl, rfl⟩ := List.cons.inj htext
    exact ⟨_, if_pos hlimit, demands_settle.2 hcloses⟩
  | array hdepth hitems =>
    obtain ⟨rfl, rfl⟩ := List.cons.inj htext
    refine ⟨_, enter_eq_ok_iff.2 ⟨hdepth, rfl⟩,
      demands_itemOrEnd_iff.2 ⟨_, rest, hitems, ?_, hcloses⟩⟩
    exact List.append_assoc _ _ _
  | object hdepth hmembers =>
    obtain ⟨rfl, rfl⟩ := List.cons.inj htext
    refine ⟨_, enter_eq_ok_iff.2 ⟨hdepth, rfl⟩,
      demands_keyOrEnd_iff.2 ⟨_, rest, hmembers, ?_, hcloses⟩⟩
    exact List.append_assoc _ _ _

/-- A value that is begun is derived, if the demand behind its first token is met. -/
theorem valueAhead_of_beginValue {r : Reader} (h : Reader.beginValue frames token = .ok r)
    (hdemands : Demands v r ts) : ValueAhead v frames (token :: ts) := by
  have hone : ∀ {u : JsonValue}, Derives frames.length [token] u →
      Demands v (Reader.settle u frames) ts → ValueAhead v frames (token :: ts) :=
    fun hu h => ⟨[token], _, ts, rfl, hu, demands_settle.1 h⟩
  cases token with
  | null | bool | string | number =>
    obtain rfl := Except.ok.inj h
    exact hone (by constructor) hdemands
  | integer negative digits =>
    rw [Reader.beginValue] at h
    split at h
    next hlimit =>
      obtain rfl := Except.ok.inj h
      exact hone (.integer hlimit) hdemands
    · exact absurd h (by simp)
  | openArray =>
    obtain ⟨hdepth, rfl⟩ := enter_eq_ok_iff.1 h
    obtain ⟨items, rest, hitems, rfl, hcloses⟩ := demands_itemOrEnd_iff.1 hdemands
    refine ⟨_, _, rest, ?_, .array hdepth hitems, hcloses⟩
    rw [List.cons_append, List.append_assoc]
    rfl
  | openObject =>
    obtain ⟨hdepth, rfl⟩ := enter_eq_ok_iff.1 h
    obtain ⟨members, rest, hmembers, rfl, hcloses⟩ := demands_keyOrEnd_iff.1 hdemands
    refine ⟨_, _, rest, ?_, .object hdepth hmembers, hcloses⟩
    rw [List.cons_append, List.append_assoc]
    rfl
  | closeArray | closeObject | comma | colon | broken =>
    exact absurd h (by simp [Reader.beginValue])

/-- **The token with which a value begins.** -/
theorem valueAhead_cons_iff : ValueAhead v frames (token :: ts) ↔
    ∃ r, Reader.beginValue frames token = .ok r ∧ Demands v r ts :=
  ⟨exists_of_valueAhead, fun ⟨_, h, hdemands⟩ => valueAhead_of_beginValue h hdemands⟩

/-- The token behind an item. -/
theorem moreItems_cons_iff {items : List JsonValue} :
    MoreItems frames.length (Closes v frames) items (token :: ts) ↔
      (token = .closeArray ∧ Closes v frames (arrayOf items) ts) ∨
        token = .comma ∧ ValueAhead v (.item items :: frames) ts := by
  constructor
  · rintro ⟨more, rest, hmore, htext, hcloses⟩
    cases more with
    | nil =>
      obtain ⟨rfl, rfl⟩ := List.cons.inj htext
      rw [List.map_nil, List.append_nil] at hcloses
      exact .inl ⟨rfl, hcloses⟩
    | cons item more =>
      obtain ⟨hitem, hmore⟩ := List.forall_mem_cons.1 hmore
      obtain ⟨rfl, rfl⟩ := List.cons.inj htext
      refine .inr ⟨rfl, item.1, item.2, _, List.append_assoc _ _ _, hitem, more, rest, hmore,
        rfl, ?_⟩
      rwa [List.reverse_cons, List.append_assoc]
  · rintro (⟨rfl, hcloses⟩ | ⟨rfl, front, u, _, rfl, hfront, more, rest, hmore, rfl, hcloses⟩)
    · refine ⟨[], ts, by simp, rfl, ?_⟩
      rwa [List.map_nil, List.append_nil]
    · refine ⟨(front, u) :: more, rest, List.forall_mem_cons.2 ⟨hfront, hmore⟩, ?_, ?_⟩
      · exact congrArg (Token.comma :: ·) (List.append_assoc _ _ _).symm
      · rwa [List.reverse_cons, List.append_assoc] at hcloses

/-- The token behind a member. -/
theorem moreMembers_cons_iff {fields : Fields} :
    MoreMembers frames.length (Closes v frames) fields (token :: ts) ↔
      (token = .closeObject ∧ Closes v frames (objectOf fields) ts) ∨
        token = .comma ∧ MemberAhead v frames fields ts := by
  constructor
  · rintro ⟨more, rest, hmore, htext, hcloses⟩
    cases more with
    | nil =>
      obtain ⟨rfl, rfl⟩ := List.cons.inj htext
      rw [List.map_nil, List.append_nil, ← objectOf_eq] at hcloses
      exact .inl ⟨rfl, hcloses⟩
    | cons m more =>
      obtain ⟨hm, hmore⟩ := List.forall_mem_cons.1 hmore
      obtain ⟨rfl, rfl⟩ := List.cons.inj htext
      refine .inr ⟨rfl, m.1, _, rfl, m.2.1, m.2.2, _, List.append_assoc _ _ _, hm, more, rest, hmore,
        rfl, ?_⟩
      rwa [List.reverse_cons, List.append_assoc]
  · rintro (⟨rfl, hcloses⟩ |
      ⟨rfl, key, _, rfl, front, u, _, rfl, hfront, more, rest, hmore, rfl, hcloses⟩)
    · refine ⟨[], ts, by simp, rfl, ?_⟩
      rwa [List.map_nil, List.append_nil, ← objectOf_eq]
    · refine ⟨(key, front, u) :: more, rest, List.forall_mem_cons.2 ⟨hfront, hmore⟩, ?_, ?_⟩
      · exact congrArg (Token.comma :: .string key :: .colon :: ·) (List.append_assoc _ _ _).symm
      · rwa [List.reverse_cons, List.append_assoc] at hcloses

/-- The token of a key. -/
theorem memberAhead_cons_iff {fields : Fields} : MemberAhead v frames fields (token :: ts) ↔
    ∃ key, token = .string key ∧ Demands v ⟨frames, .colon fields key⟩ ts := by
  constructor
  · rintro ⟨key, rest, htext, hvalue⟩
    obtain ⟨rfl, rfl⟩ := List.cons.inj htext
    exact ⟨key, rfl, rest, rfl, hvalue⟩
  · rintro ⟨key, rfl, rest, rfl, hvalue⟩
    exact ⟨key, rest, rfl, hvalue⟩

theorem exists_cons_eq_iff {t : Token} {rest : List Token → Prop} :
    (∃ us, token :: ts = t :: us ∧ rest us) ↔ token = t ∧ rest ts := by
  constructor
  · rintro ⟨us, htext, h⟩
    obtain ⟨rfl, rfl⟩ := List.cons.inj htext
    exact ⟨rfl, h⟩
  · rintro ⟨rfl, h⟩
    exact ⟨ts, rfl, h⟩

/-- **A token that is taken** turns the demand of the reader into that of the next. -/
theorem demands_cons_iff {r : Reader} :
    Demands v r (token :: ts) ↔ ∃ r', r.step token = .ok r' ∧ Demands v r' ts := by
  obtain ⟨frames, expected⟩ := r
  -- What is expected fixes the tokens that can be taken; every other one meets no demand.
  cases expected with
  | value => exact valueAhead_cons_iff
  | itemOrEnd =>
    have hdemands : Demands v ⟨frames, .itemOrEnd⟩ (token :: ts) ↔
        (token = .closeArray ∧ Closes v frames (.array []) ts) ∨
          ∃ r, Reader.beginValue (.item [] :: frames) token = .ok r ∧ Demands v r ts :=
      or_congr exists_cons_eq_iff valueAhead_cons_iff
    rw [hdemands]
    cases token <;> simp [Reader.step, Reader.beginValue, demands_settle]
  | keyOrEnd =>
    have hdemands : Demands v ⟨frames, .keyOrEnd⟩ (token :: ts) ↔
        (token = .closeObject ∧ Closes v frames (.object []) ts) ∨
          ∃ key, token = .string key ∧ Demands v ⟨frames, .colon [] key⟩ ts :=
      or_congr exists_cons_eq_iff memberAhead_cons_iff
    rw [hdemands]
    cases token <;> simp [Reader.step, demands_settle]
  | key fields =>
    have hdemands : Demands v ⟨frames, .key fields⟩ (token :: ts) ↔
        ∃ key, token = .string key ∧ Demands v ⟨frames, .colon fields key⟩ ts :=
      memberAhead_cons_iff
    rw [hdemands]
    cases token <;> simp [Reader.step]
  | colon fields key =>
    have hdemands : Demands v ⟨frames, .colon fields key⟩ (token :: ts) ↔
        token = .colon ∧ Demands v ⟨.field fields key :: frames, .value⟩ ts := exists_cons_eq_iff
    rw [hdemands]
    cases token <;> simp [Reader.step]
  | afterItem items =>
    have hdemands : Demands v ⟨frames, .afterItem items⟩ (token :: ts) ↔
        (token = .closeArray ∧ Closes v frames (arrayOf items) ts) ∨
          token = .comma ∧ Demands v ⟨.item items :: frames, .value⟩ ts := moreItems_cons_iff
    rw [hdemands]
    cases token <;> simp [Reader.step, demands_settle]
  | afterField fields =>
    have hdemands : Demands v ⟨frames, .afterField fields⟩ (token :: ts) ↔
        (token = .closeObject ∧ Closes v frames (objectOf fields) ts) ∨
          token = .comma ∧ Demands v ⟨frames, .key fields⟩ ts := moreMembers_cons_iff
    rw [hdemands]
    cases token <;> simp [Reader.step, demands_settle]
  | nothing u =>
    have hdemands : ¬Demands v ⟨frames, .nothing u⟩ (token :: ts) := by
      rintro ⟨-, hnil⟩
      exact absurd hnil (List.cons_ne_nil token ts)
    cases token <;> simp [Reader.step, hdemands]

/-! ## Whole runs -/

theorem Derives.ne_nil {depth : Nat} (h : Derives depth ts v) : ts ≠ [] := by
  cases h <;> exact List.cons_ne_nil _ _

/-- Where no token is left, nothing is demanded. -/
theorem demands_nil_iff {r : Reader} : Demands v r [] ↔ r.expected = .nothing v := by
  have hvalue : ∀ {frames : List Frame}, ¬ValueAhead v frames [] := by
    rintro frames ⟨front, u, rest, hnil, hfront, -⟩
    exact hfront.ne_nil (List.append_eq_nil_iff.1 hnil.symm).1
  obtain ⟨frames, expected⟩ := r
  cases expected with
  | nothing u => simp [Demands]
  | _ => simp [Demands, MemberAhead, MoreItems, MoreMembers, hvalue]

theorem finish_cons_eq_ok_iff {r : Reader} :
    r.finish (token :: ts) = .ok v ↔ ∃ r', r.step token = .ok r' ∧ r'.finish ts = .ok v := by
  rw [Reader.finish]
  cases r.step token <;> simp

/-- **A run of the reader** ends with a value exactly if the tokens meet its demand. -/
theorem finish_eq_ok_iff {r : Reader} : r.finish ts = .ok v ↔ Demands v r ts := by
  induction ts generalizing r with
  | nil =>
    rw [demands_nil_iff, Reader.finish]
    split
    next u hu => simp [hu]
    next hu => exact ⟨fun h => absurd h (by simp), fun h => (hu v h).elim⟩
  | cons token ts ih => simp only [finish_cons_eq_ok_iff, demands_cons_iff, ih]

/-! ## What a run shows of its tokens -/

theorem step_broken (r : Reader) : r.step .broken = .error .notJson := by
  obtain ⟨frames, expected⟩ := r
  cases expected <;> rfl

/-- A broken token is never taken. -/
theorem not_mem_of_finish {r : Reader} (h : r.finish ts = .ok v) : .broken ∉ ts := by
  induction ts generalizing r with
  | nil => exact List.not_mem_nil
  | cons token ts ih =>
    obtain ⟨r', hstep, h⟩ := finish_cons_eq_ok_iff.1 h
    rintro (_ | ⟨_, hmem⟩)
    · rw [step_broken] at hstep
      exact absurd hstep (by simp)
    · exact ih h hmem

/-- A number is a value. -/
theorem exists_settle_of_step {r r' : Reader} (hnumber : token.IsNumber)
    (h : r.step token = .ok r') : ∃ u frames, r' = Reader.settle u frames := by
  have hvalue : ∀ {frames : List Frame}, Reader.beginValue frames token = .ok r' →
      ∃ u frames, r' = Reader.settle u frames := by
    intro frames h
    cases token with
    | number x => exact ⟨_, frames, (Except.ok.inj h).symm⟩
    | integer negative digits =>
      rw [Reader.beginValue] at h
      split at h
      · exact ⟨_, frames, (Except.ok.inj h).symm⟩
      · exact absurd h (by simp)
    | _ => exact hnumber.elim
  obtain ⟨frames, expected⟩ := r
  cases token with
  | number | integer =>
    cases expected with
    | value | itemOrEnd => exact hvalue h
    | _ => exact absurd h (by simp [Reader.step])
  | _ => exact hnumber.elim

/-- Behind a value there is a comma or an end. -/
theorem eq_mark_of_step_settle {u : JsonValue} {r : Reader}
    (h : (Reader.settle u frames).step token = .ok r) :
    token = .comma ∨ token = .closeArray ∨ token = .closeObject := by
  cases frames with
  | nil => cases token <;> exact absurd h (by simp [Reader.settle, Reader.step])
  | cons frame frames => cases frame <;> cases token <;> simp_all [Reader.settle, Reader.step]

/-- **Numbers end** where tokens are taken. -/
theorem numbersEnd_of_finish {r : Reader} (h : r.finish ts = .ok v) : NumbersEnd ts := by
  induction ts generalizing r with
  | nil => trivial
  | cons token ts ih =>
    obtain ⟨r', hstep, h⟩ := finish_cons_eq_ok_iff.1 h
    refine ⟨fun hnumber next hnext => ?_, ih h⟩
    -- The number has been settled, so the next step is that behind a value.
    obtain ⟨u, frames, rfl⟩ := exists_settle_of_step hnumber hstep
    obtain ⟨ts, rfl⟩ := List.head?_eq_some_iff.1 hnext
    obtain ⟨r'', hstep', -⟩ := finish_cons_eq_ok_iff.1 h
    exact eq_mark_of_step_settle hstep'

/-! ## Reading -/

/-- **A text is read as the value that it spells**, and as no other. -/
theorem read_eq_ok_iff {g : Glyphs} : read g = .ok v ↔ Spells g v := by
  have hderives : ∀ {ts : List Token}, Reader.finish ⟨[], .value⟩ ts = .ok v ↔ Derives 0 ts v := by
    intro ts
    rw [finish_eq_ok_iff]
    constructor
    · rintro ⟨front, u, rest, rfl, hfront, rfl, rfl⟩
      rwa [List.append_nil]
    · intro h
      exact ⟨ts, v, [], (List.append_nil ts).symm, h, rfl, rfl⟩
  constructor
  · intro h
    exact ⟨tokens g, lexes_tokens g (not_mem_of_finish h), hderives.1 h⟩
  · rintro ⟨ts, hlexes, hts⟩
    have h := hderives.2 hts
    rw [read, tokens_of_lexes hlexes (numbersEnd_of_finish h)]
    exact h

/-- **A text spells one value** at most. -/
theorem Spells.unique {g : Glyphs} {u : JsonValue} (hu : Spells g u) (hv : Spells g v) : u = v :=
  Except.ok.inj ((read_eq_ok_iff.2 hu).symm.trans (read_eq_ok_iff.2 hv))

end Json

end Desinence
