/-
The stemming service.

The service loads its table when it starts and forgets it when it stops; in
between it answers requests. It describes itself, reports its health, and stems
texts. A request to stem without a table fails, and so does one whose refusal
cannot be reported; a failure is answered like any other request. What the service
does is logged.

`State.start` and `State.stop` are the two halves of `lifespan`, with `build_stemmer`
in the first. `answerOn` has the handlers of the routes: `health`, `stem` with
`stem_text`, and `global_exception_handler` as `failure`. `version` is `APP_VERSION`.

Which handler a request comes to is decided by FastAPI, which is no part of the
program either (see also `Desinence.RequestPath` and `Desinence.RequestBody`). Of its
router the following is relied on, and stated by `Route`, `routeOf?` and
`answerInFull`: beside the program's routes there are those of its pages; a path is
compared as a whole, a line feed behind it apart; a path that is none but for the
slash at its end is redirected by 307, any other is answered by 404, and a method
that a route has not by 405. The client of the tests puts methods in capitals and
leaves out what follows the head of a response to `HEAD`.
-/
import Desinence.RequestBody
import Desinence.RequestPath
import Desinence.Settings
import Desinence.Stemmer

set_option autoImplicit false

namespace Desinence

namespace Service

/-! ## Requests and responses -/

/-- **A request.** A missing body is an empty one. -/
structure Request where
  method : Text
  path : Text
  body : Text
  deriving Repr, DecidableEq

/-- **A response**, by what it says; an empty one says no more than its status. -/
inductive Response
  | description
  | health (stages : Nat)
  | stemmed (text stem : Text)
  | refused (problem : BodyProblem)
  | notFound
  | methodNotAllowed
  | failed (reason : Text)
  | empty (status : Nat)
  deriving Repr, DecidableEq

/-- The status code of a response. -/
def Response.status : Response → Nat
  | .description | .health _ | .stemmed _ _ => 200
  | .refused .unreadable => 400
  | .refused _ => 422
  | .notFound => 404
  | .methodNotAllowed => 405
  | .failed _ => 500
  | .empty status => status

/-- The response that sends the same request to another path. -/
def Response.redirect : Response :=
  .empty 307

/-- The version of the service. -/
def version : Text :=
  "1.0.0".toList

/-- What the service says about itself. -/
def description : List (Text × Text) :=
  [("service".toList, "RSLP Stemmer API".toList), ("version".toList, version),
   ("status".toList, "running".toList), ("docs".toList, "/docs".toList)]

/-- What is said when there is no table to stem with. -/
def noStemmerReason : Text :=
  "'NoneType' object has no attribute 'stem'".toList

/-! ## One request -/

/-- What the service can be asked. The pages about its use are made elsewhere; of
them only the addresses are known here. -/
inductive Route
  | describe
  | health
  | stem
  | pages
  deriving Repr, DecidableEq

namespace Route

/-- All routes. -/
def all : List Route :=
  [.describe, .health, .stem, .pages]

/-- The paths of a route. -/
def paths : Route → List Text
  | .describe => ["/".toList]
  | .health => ["/health".toList]
  | .stem => ["/stem".toList]
  | .pages =>
    ["/openapi.json".toList, "/docs".toList, "/docs/oauth2-redirect".toList, "/redoc".toList]

/-- The methods of a route. -/
def methods : Route → List Text
  | .describe | .health => ["GET".toList]
  | .stem => ["POST".toList]
  | .pages => ["GET".toList, "HEAD".toList]

/-- Whether a path leads to a route. A line feed behind it does not matter. -/
def hasPath (r : Route) (path : Text) : Bool :=
  r.paths.any fun p => path == p || path == p ++ ['\n']

end Route

/-- The route to which a path leads. -/
def routeOf? (path : Text) : Option Route :=
  Route.all.find? (·.hasPath path)

/-- The response where a path leads to no route: if it does so with its end turned,
the request is sent there. -/
def answerAstray (path : Text) : Response :=
  if (routeOf? (RequestPath.turned path)).isSome then .redirect else .notFound

/-- The stems of a text, or the reason why there are none. -/
def stemText (bound : Option Stemmer) (t : Text) : Except Text Text :=
  match bound with
  | some s => .ok (s.stemText t)
  | none => .error noStemmerReason

/-- The record of a stemmed text. -/
def stemmedRecord (text stem : Text) : LogRecord :=
  ⟨Level.debug, .service, "Stemmed ".toList ++ text.quoted ++ " -> ".toList ++ stem.quoted⟩

/-- A failed request to stem, and its record. -/
def failure (reason : Text) : Response × List LogRecord :=
  (.failed reason, [⟨Level.error, .service, "Unhandled error on /stem: ".toList ++ reason⟩])

/-- Answers a request to stem. -/
def answerStem (bound : Option Stemmer) (body : Text) : Response × List LogRecord :=
  match requestedText body with
  | .error refusal =>
    match refusal.reportFault? with
    | some reason => failure reason
    | none => (.refused refusal.problem, [])
  | .ok text =>
    match stemText bound text with
    | .ok stem => (.stemmed text stem, [stemmedRecord text stem])
    | .error reason => failure reason

/-- Answers a request on a route that has its method. -/
def answerOn (bound : Option Stemmer) (body : Text) : Route → Response × List LogRecord
  | .describe => (.description, [])
  | .health => (.health ((bound.map (·.table.length)).getD 0), [])
  | .stem => answerStem bound body
  | .pages => (.empty 200, [])

/-- Answers a request whose method is in capitals. -/
def answerInFull (bound : Option Stemmer) (method path body : Text) :
    Response × List LogRecord :=
  match routeOf? path with
  | none => (answerAstray path, [])
  | some route =>
    if method ∈ route.methods then answerOn bound body route else (.methodNotAllowed, [])

/-- **Answers a request**, and logs what is to be logged. Of the response to a request
for the head alone only the status is left. -/
def answer (bound : Option Stemmer) (r : Request) : Response × List LogRecord :=
  let method := r.method.upper
  let (response, records) := answerInFull bound method (RequestPath.ofAddress r.path) r.body
  (if method = "HEAD".toList then .empty response.status else response, records)

/-! ## The state of the service -/

/-- **The service at one moment**: the stemmer that is bound, if any, and the log
so far. -/
structure State where
  bound : Option Stemmer
  log : List LogRecord
  deriving Repr, DecidableEq

namespace State

/-- The service before it starts. -/
def initial : State :=
  ⟨none, []⟩

/-- The state with more in its log. -/
def logging (s : State) (records : List LogRecord) : State :=
  { s with log := s.log ++ records }

end State

/-- A record of the service's own. -/
def record (level : Int) (message : Text) : LogRecord :=
  ⟨level, .service, message⟩

/-- What is logged about a table that cannot be loaded: a format error and a
missing file are reported, any other fault is not. -/
def faultRecords (path : Path) (fault : LoadFault) : List LogRecord :=
  if fault.isFormatError then
    [record Level.error ("Invalid rule file ".toList ++ path.text ++ ": ".toList ++ fault.message)]
  else if fault.isMissingFile then
    [record Level.error ("Rule file not found: ".toList ++ path.text)]
  else []

/-- How a run begins. -/
inductive Startup
  | started
  | skipped
  | failed (fault : LoadFault)
  deriving Repr, DecidableEq

namespace State

/-- **Starts the service** on a table file. If the table does not load, nothing is
bound. -/
def start (s : State) (files : FileTree) (path : Path) (removeAccents : Bool) :
    Startup × State :=
  let loaded := load files path
  let s := s.logging
    (record Level.info ("Loading RSLP rules from ".toList ++ path.text ++ "...".toList) ::
      loaded.log)
  match loaded.result with
  | .error fault => (.failed fault, s.logging (faultRecords path fault))
  | .ok table =>
    (.started, { s with bound := some ⟨table, removeAccents⟩ }.logging
      [record Level.info "RSLP stemmer initialized successfully".toList])

/-- Answers one request. -/
def serve (s : State) (r : Request) : Response × State :=
  let (response, records) := answer s.bound r
  (response, s.logging records)

/-- **Answers requests** in order. -/
def serveAll (s : State) : List Request → List Response × State
  | [] => ([], s)
  | r :: rest =>
    let (response, s) := s.serve r
    let (responses, s) := s.serveAll rest
    (response :: responses, s)

/-- **Stops the service**: its table is forgotten. -/
def stop (s : State) : State :=
  { s with bound := none }.logging [record Level.info "Shutting down...".toList]

end State

/-! ## A whole run -/

/-- **What a run leaves**: how it began, its responses in the order of the
requests, and the service at its end. -/
structure Run where
  startup : Startup
  responses : List Response
  final : State
  deriving Repr, DecidableEq

/-- A run without start and stop: no table is ever bound. -/
def runUnstarted (requests : List Request) : Run :=
  let (responses, s) := State.initial.serveAll requests
  ⟨.skipped, responses, s⟩

/-- **A run**: the service starts, answers the requests and stops, or fails to
start and answers none. -/
def run (files : FileTree) (path : Path) (removeAccents : Bool)
    (requests : List Request) : Run :=
  match State.initial.start files path removeAccents with
  | (.started, s) =>
    let (responses, s) := s.serveAll requests
    ⟨.started, responses, s.stop⟩
  | (startup, s) => ⟨startup, [], s⟩

end Service

end Desinence
