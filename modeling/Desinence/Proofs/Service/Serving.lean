/-
Serving requests.

Only a request to stem makes stems, and only one whose body asks for a text. All
others are answered without a word in the log, save a failure, which is logged as
such. So the records of stemmed texts are told by the responses, one answer at a
time (`filter_isStemming_answer`), and since no answer changes what is bound, a
series of requests is answered as each of them is by itself (`serveAll_eq`).
-/
import Desinence.Service
import Desinence.Proofs.RequestBody

set_option autoImplicit false

namespace Desinence

/-- A record that tells of a stemmed text. -/
def LogRecord.isStemming (r : LogRecord) : Bool :=
  r.level == Level.debug && r.channel == .service && "Stemmed ".toList.isPrefixOf r.message

namespace Service

variable {bound : Option Stemmer} {q : Request}

/-! ## Requests and routes -/

/-- The request leads to a route. -/
def Request.LeadsTo (q : Request) (route : Route) : Prop :=
  routeOf? (RequestPath.ofAddress q.path) = some route

/-- The request leads to a route, and has a method. -/
def Request.IsFor (q : Request) (method : String) (route : Route) : Prop :=
  q.method.upper = method.toList ∧ q.LeadsTo route

instance (q : Request) (route : Route) : Decidable (q.LeadsTo route) :=
  inferInstanceAs (Decidable (_ = _))

instance (q : Request) (method : String) (route : Route) : Decidable (q.IsFor method route) :=
  inferInstanceAs (Decidable (_ ∧ _))

/-- A request for more than the head is answered in full. -/
theorem answer_of_ne_head (h : q.method.upper ≠ "HEAD".toList) :
    answer bound q = answerInFull bound q.method.upper (RequestPath.ofAddress q.path) q.body := by
  simp only [answer, if_neg h]

/-- A request with a method of its route is answered on the route. -/
theorem answer_of_isFor {method : String} {route : Route} (h : q.IsFor method route)
    (hhead : method.toList ≠ "HEAD".toList) (hmethod : method.toList ∈ route.methods) :
    answer bound q = answerOn bound q.body route := by
  obtain ⟨hupper, hroute⟩ := h
  rw [answer_of_ne_head (by rw [hupper]; exact hhead), answerInFull, hroute, hupper]
  exact if_pos hmethod

theorem answer_stem (h : q.IsFor "POST" .stem) : answer bound q = answerStem bound q.body :=
  answer_of_isFor h (by decide) (by decide)

theorem answer_health {s : Stemmer} (h : q.IsFor "GET" .health) :
    answer (some s) q = (.health s.table.length, []) :=
  answer_of_isFor h (by decide) (by decide)

/-! ## Requests to stem -/

/-- **A request to stem** gets the stems of the text it asks for, or else it fails or
is refused. Each of the three has its records. -/
theorem answerStem_cases (s : Stemmer) (body : Text) :
    (∃ text, Asks body text ∧ answerStem (some s) body =
      (.stemmed text (s.stemText text), [stemmedRecord text (s.stemText text)])) ∨
    (∀ text, ¬Asks body text) ∧ ((∃ reason, answerStem (some s) body = failure reason) ∨
      ∃ problem, answerStem (some s) body = (.refused problem, [])) := by
  rw [answerStem]
  cases h : requestedText body with
  | ok text => exact .inl ⟨text, requestedText_eq_ok_iff.1 h, rfl⟩
  | error refusal =>
    have hnone : ∀ text, ¬Asks body text := by
      intro text hasks
      rw [requestedText_eq_ok_iff.2 hasks] at h
      exact absurd h (by simp)
    refine .inr ⟨hnone, ?_⟩
    dsimp only
    cases hfault : refusal.reportFault? with
    | some reason => exact .inl ⟨reason, rfl⟩
    | none => exact .inr ⟨refusal.problem, rfl⟩

/-- A refusal is no success. -/
theorem Response.status_refused_ne (problem : BodyProblem) :
    (Response.refused problem).status ≠ 200 := by
  cases problem <;> decide

/-- A body asks for one text at most. -/
theorem asks_unique {body t u : Text} (ht : Asks body t) (hu : Asks body u) : t = u := by
  have h := (requestedText_eq_ok_iff.2 ht).symm.trans (requestedText_eq_ok_iff.2 hu)
  exact Except.ok.inj h

/-! ## Other requests -/

/-- An answer that tells of no stemmed text, in the response or in the log. -/
def IsSilent (a : Response × List LogRecord) : Prop :=
  (∀ text stem, a.1 ≠ .stemmed text stem) ∧ a.2 = []

theorem isSilent_answerInFull (bound : Option Stemmer) {method path body : Text}
    (h : ¬(method = "POST".toList ∧ routeOf? path = some .stem)) :
    IsSilent (answerInFull bound method path body) := by
  rw [answerInFull]
  cases hroute : routeOf? path with
  | none =>
    refine ⟨fun text stem => ?_, rfl⟩
    simp only [answerAstray, Response.redirect]
    split <;> simp
  | some route =>
    by_cases hmethod : method ∈ route.methods
    · simp only [if_pos hmethod]
      cases route with
      | describe => exact ⟨fun _ _ => by simp [answerOn], rfl⟩
      | health => exact ⟨fun _ _ => by simp [answerOn], rfl⟩
      | stem => exact absurd ⟨List.mem_singleton.1 hmethod, hroute⟩ h
      | pages => exact ⟨fun _ _ => by simp [answerOn], rfl⟩
    · simp only [if_neg hmethod]
      exact ⟨fun _ _ => by simp, rfl⟩

/-- **Any other request** is answered without stems and without a record. -/
theorem isSilent_answer (bound : Option Stemmer) (h : ¬q.IsFor "POST" .stem) : IsSilent (answer bound q) := by
  obtain ⟨hresponse, hrecords⟩ := isSilent_answerInFull bound h
  refine ⟨?_, hrecords⟩
  intro text stem
  rw [answer]
  dsimp only
  split
  · simp
  · exact hresponse text stem

/-- A request that leads to stemming with another method is not allowed. -/
theorem status_answer_of_method (hroute : q.LeadsTo .stem) (h : q.method.upper ≠ "POST".toList) :
    (answer bound q).1.status = 405 := by
  have hmethod : q.method.upper ∉ Route.stem.methods := by
    rw [Route.methods, List.mem_singleton]
    exact h
  have hfull : answerInFull bound q.method.upper (RequestPath.ofAddress q.path) q.body =
      (.methodNotAllowed, []) := by
    rw [answerInFull, hroute]
    exact if_neg hmethod
  rw [answer, hfull]
  dsimp only
  split <;> rfl

/-! ## One answer -/

/-- The record of a response, if it tells of a stemmed text. -/
def Response.record? : Response → Option LogRecord
  | .stemmed text stem => some (stemmedRecord text stem)
  | _ => none

theorem Response.record?_eq_none {a : Response} (h : ∀ text stem, a ≠ .stemmed text stem) :
    a.record? = none := by
  cases a with
  | stemmed text stem => exact absurd rfl (h text stem)
  | _ => rfl

theorem isStemming_stemmedRecord (text stem : Text) :
    (stemmedRecord text stem).isStemming = true := by
  have hprefix : "Stemmed ".toList.isPrefixOf (stemmedRecord text stem).message = true := by
    rw [List.isPrefixOf_iff_prefix, stemmedRecord]
    simp only [List.append_assoc]
    exact List.prefix_append _ _
  rw [LogRecord.isStemming, hprefix]
  rfl

/-- **The records of stemmed texts are those of the responses.** -/
theorem filter_isStemming_answer (s : Stemmer) (q : Request) :
    (answer (some s) q).2.filter LogRecord.isStemming = (answer (some s) q).1.record?.toList := by
  by_cases h : q.IsFor "POST" .stem
  · rw [answer_stem h]
    obtain ⟨text, -, hanswer⟩ | ⟨-, ⟨reason, hanswer⟩ | ⟨problem, hanswer⟩⟩ := answerStem_cases s q.body
    · rw [hanswer, List.filter_cons_of_pos (isStemming_stemmedRecord _ _)]
      rfl
    · rw [hanswer]
      rfl
    · rw [hanswer]
      rfl
  · obtain ⟨hresponse, hrecords⟩ := isSilent_answer (some s) h
    rw [hrecords, Response.record?_eq_none hresponse]
    rfl

/-- **What a request gets** while a stemmer is bound. A request to stem gets the
stems of the text it asks for, with the text; no response but that is a success on
its route, or has a record. A request for the state of health gets the number of
stages. -/
structure Serves (s : Stemmer) (q : Request) (a : Response) : Prop where
  stems : ∀ text, q.IsFor "POST" .stem → Asks q.body text →
    a.status = 200 ∧ a = .stemmed text (Text.joinWith [' '] ((text.splitAt ' ').map s.stem))
  success : q.LeadsTo .stem ∧ a.status = 200 ↔ a.record?.isSome = true
  health : q.IsFor "GET" .health → a.status = 200 ∧ a = .health s.table.length

/-- A request to stem, from the three cases of its answer. -/
theorem serves_stem (s : Stemmer) (h : q.IsFor "POST" .stem) : Serves s q (answer (some s) q).1 := by
  have hhealth : ¬q.IsFor "GET" .health := by
    intro hget
    have hmethod := h.1.symm.trans hget.1
    exact absurd hmethod (by decide)
  rw [answer_stem h]
  obtain ⟨text, hasks, hanswer⟩ | ⟨hnone, ⟨reason, hanswer⟩ | ⟨problem, hanswer⟩⟩ :=
    answerStem_cases s q.body
  · rw [hanswer]
    refine ⟨?_, ⟨fun _ => rfl, fun _ => ⟨h.2, rfl⟩⟩, fun hget => absurd hget hhealth⟩
    intro u _ hu
    rw [asks_unique hu hasks]
    exact ⟨rfl, rfl⟩
  · rw [hanswer]
    refine ⟨fun text _ hasks => absurd hasks (hnone text), ?_, fun hget => absurd hget hhealth⟩
    simp [failure, Response.status, Response.record?]
  · rw [hanswer]
    refine ⟨fun text _ hasks => absurd hasks (hnone text), ?_, fun hget => absurd hget hhealth⟩
    simp [Response.status_refused_ne, Response.record?]

/-- **Each request gets what it should.** -/
theorem serves_answer (s : Stemmer) (q : Request) : Serves s q (answer (some s) q).1 := by
  by_cases h : q.IsFor "POST" .stem
  · exact serves_stem s h
  · have hrecord : (answer (some s) q).1.record? = none :=
      Response.record?_eq_none (isSilent_answer (some s) h).1
    refine ⟨fun _ hpost _ => absurd hpost h, ?_, ?_⟩
    · rw [hrecord]
      refine ⟨?_, fun hsome => absurd hsome (by simp)⟩
      -- On the route of stemming it must be the method that is another.
      rintro ⟨hroute, hstatus⟩
      have hmethod : q.method.upper ≠ "POST".toList := fun hpost => h ⟨hpost, hroute⟩
      rw [status_answer_of_method hroute hmethod] at hstatus
      exact absurd hstatus (by decide)
    · intro hget
      rw [answer_health hget]
      exact ⟨rfl, rfl⟩

/-! ## Many answers -/

namespace State

/-- **Requests are answered one by one**, under the table that is bound, and the log
gets the records of each in their order. -/
theorem serveAll_eq (st : State) (requests : List Request) :
    st.serveAll requests = (requests.map fun q => (answer st.bound q).1,
      st.logging (requests.flatMap fun q => (answer st.bound q).2)) := by
  induction requests generalizing st with
  | nil => simp [serveAll, logging]
  | cons q rest ih =>
    -- The state after the first request has the same table.
    have hserve : st.serve q = ((answer st.bound q).1, st.logging (answer st.bound q).2) := rfl
    rw [serveAll, hserve]
    dsimp only
    rw [ih]
    simp [logging]

end State

/-- The records of a series of answers that tell of stemmed texts. -/
theorem filter_isStemming_answers (s : Stemmer) (requests : List Request) :
    (requests.flatMap fun q => (answer (some s) q).2).filter LogRecord.isStemming =
      (requests.map fun q => (answer (some s) q).1).filterMap Response.record? := by
  induction requests with
  | nil => rfl
  | cons q rest ih =>
    rw [List.flatMap_cons, List.filter_append, filter_isStemming_answer, ih, List.map_cons]
    cases h : (answer (some s) q).1.record? with
    | none => rw [List.filterMap_cons_none h]; rfl
    | some r => rw [List.filterMap_cons_some h]; rfl

end Service

end Desinence
