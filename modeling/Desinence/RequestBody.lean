/-
The body of a request to stem.

A body is JSON, and asks for the stems of the non-empty string in the field `text`
of an object. One that asks for something else is refused. A refusal names the
problem and shows the value that has it in a report, which is JSON too. Fields whose
key begins with `_sa` are internal, and the report leaves them out. Not every value
that can be read can be shown: the report has neither numbers that are not finite
nor halves of surrogate pairs.

`requestedText` is what FastAPI and pydantic make of a body where the type of a
request is `StemRequest`. They are no part of the program, which relies on them for
this much: the body is given to `json.loads` as bytes; no body, and the value `null`,
count as missing; the value must be an object and its field `text` a string of at
least one character, without halves of surrogate pairs. What fails one of these is
answered by 422, in the words of pydantic and with the input; a body that fails in
`json.loads` for another reason than its syntax is answered by 400. A 422 whose
report cannot be sent as JSON is an error like any other on the way to a response.
-/
import Desinence.Json.Encoding
import Desinence.Json.Reader
import Desinence.Json.Writer

set_option autoImplicit false

namespace Desinence

/-! ## Refusals -/

/-- Why a body is refused. -/
inductive BodyProblem
  | noBody
  | notJson
  | notAnObject
  | noText
  | textNotAString
  | textTooShort
  | textNotUnicode
  | unreadable
  deriving Repr, DecidableEq

namespace BodyProblem

/-- The word for a problem. -/
def kind : BodyProblem → Text
  | .noBody => "missing".toList
  | .notJson => "json_invalid".toList
  | .notAnObject => "model_attributes_type".toList
  | .noText => "missing".toList
  | .textNotAString => "string_type".toList
  | .textTooShort => "string_too_short".toList
  | .textNotUnicode => "string_unicode".toList
  | .unreadable => "unreadable".toList

/-- Where the problem is: in the body, or in the body's text. -/
def place : BodyProblem → List Text
  | .noBody | .notJson | .notAnObject | .unreadable => ["body".toList]
  | .noText | .textNotAString | .textTooShort | .textNotUnicode => ["body".toList, "text".toList]

/-- What is said about a problem. -/
def explanation : BodyProblem → Text
  | .noBody | .noText => "Field required".toList
  | .notJson => "JSON decode error".toList
  | .notAnObject =>
    "Input should be a valid dictionary or object to extract fields from".toList
  | .textNotAString => "Input should be a valid string".toList
  | .textTooShort => "String should have at least 1 character".toList
  | .textNotUnicode =>
    "Input should be a valid string, unable to parse raw data as a unicode string".toList
  | .unreadable => "There was an error parsing the body".toList

end BodyProblem

/-- **A refusal**: the problem, and the value that has it. -/
structure Refusal where
  problem : BodyProblem
  input : JsonValue

/-! ## What the body asks for -/

/-- What an object asks to stem. -/
def textField (fields : Json.Fields) : Except Refusal Text :=
  match fields.get? (Text.glyphs "text".toList) with
  | none => .error ⟨.noText, .object fields⟩
  | some (.string g) =>
    match g.text? with
    | none => .error ⟨.textNotUnicode, .string g⟩
    | some [] => .error ⟨.textTooShort, .string g⟩
    | some t => .ok t
  | some v => .error ⟨.textNotAString, v⟩

/-- What a value asks to stem. -/
def textOf : JsonValue → Except Refusal Text
  | .null => .error ⟨.noBody, .null⟩
  | .object fields => textField fields
  | v => .error ⟨.notAnObject, v⟩

/-- **The text that a body asks to stem.** -/
def requestedText (body : Text) : Except Refusal Text :=
  if body.isEmpty then .error ⟨.noBody, .null⟩
  else match (Json.glyphsOf? body).map Json.read with
    | some (.ok v) => textOf v
    | some (.error .notJson) => .error ⟨.notJson, .object []⟩
    | _ => .error ⟨.unreadable, .null⟩

/-! ## The report -/

/-- The keys of internal fields. -/
def isInternal (key : Glyphs) : Bool :=
  (Text.glyphs "_sa".toList).isPrefixOf key

mutual

/-- **A value without its internal fields**, at any depth. -/
def JsonValue.shown : JsonValue → JsonValue
  | .array items => .array (shownItems items)
  | .object fields => .object (shownFields fields)
  | v => v

/-- Items without their internal fields. -/
def shownItems : List JsonValue → List JsonValue
  | [] => []
  | v :: rest => v.shown :: shownItems rest

/-- A field, its value without internal fields. -/
def shownField : Glyphs × JsonValue → Glyphs × JsonValue
  | (key, v) => (key, v.shown)

/-- The fields that are not internal. -/
def shownFields : List (Glyphs × JsonValue) → List (Glyphs × JsonValue)
  | [] => []
  | f :: rest => if isInternal f.1 then shownFields rest else shownField f :: shownFields rest

end

namespace Refusal

/-- A string value. -/
def text (t : Text) : JsonValue :=
  .string t.glyphs

/-- A field with a name. -/
def field (name : String) (v : JsonValue) : Glyphs × JsonValue :=
  (Text.glyphs name.toList, v)

/-- **The report on a refusal.** -/
def report (r : Refusal) : JsonValue :=
  .object [field "detail" (.array [.object
    [field "type" (text r.problem.kind), field "loc" (.array (r.problem.place.map text)),
     field "msg" (text r.problem.explanation), field "input" r.input.shown]])]

end Refusal

/-- The halves at the beginning of a string. -/
def Glyphs.leadingHalves : Glyphs → List Nat
  | .half n :: r => n :: leadingHalves r
  | _ => []

/-- What is said of halves side by side, the first of them at a position. -/
def halvesMessage (position : Nat) : List Nat → Text
  | [n] =>
    "'utf-8' codec can't encode character '\\u".toList ++ hexDigits 4 n ++
      "' in position ".toList ++ Text.ofNat position ++ ": surrogates not allowed".toList
  | halves =>
    "'utf-8' codec can't encode characters in position ".toList ++ Text.ofNat position ++ ['-'] ++
      Text.ofNat (position + halves.length - 1) ++ ": surrogates not allowed".toList

/-- **Why a report cannot be sent**: a number in it has no text, or it is no text
itself. The first halves in it are shown by their position. -/
def Refusal.reportFault? (r : Refusal) : Option Text :=
  match Json.write r.report with
  | none => some "Out of range float values are not JSON compliant".toList
  | some g =>
    match g.findIdx? Glyph.isHalf with
    | none => none
    | some position => some (halvesMessage position (Glyphs.leadingHalves (g.drop position)))

end Desinence
