/-
Reading JSON.

The reader takes one token after the other. Around the value that is being read it
keeps a stack of the arrays and objects not yet finished; there may be only so
many of them. What such a frame holds so far is kept with the last in front.

It is `json.loads`, with the limits of its recursion and of `int`.
-/
import Desinence.Json.Token
import Desinence.Json.Value

set_option autoImplicit false

namespace Desinence

namespace Json

/-- Why a text is read as no value: it is not JSON, an integer in it has too many
digits, or it is nested too deeply. -/
inductive Flaw
  | notJson
  | longInteger (digits : Nat)
  | tooDeep
  deriving Repr, DecidableEq

/-- The most arrays and objects that may be open at one time. -/
def nestingLimit : Nat := 960

/-- An array or object around the value that is being read: what it holds so far,
the last first, and the key that the value belongs to. -/
inductive Frame
  | item (items : List JsonValue)
  | field (fields : Fields) (key : Glyphs)

/-- What the next token may be. -/
inductive Expected
  | value
  | itemOrEnd
  | keyOrEnd
  | key (fields : Fields)
  | colon (fields : Fields) (key : Glyphs)
  | afterItem (items : List JsonValue)
  | afterField (fields : Fields)
  | nothing (value : JsonValue)

/-- The array of items that were collected with the last in front. -/
def arrayOf (items : List JsonValue) : JsonValue :=
  .array items.reverse

/-- The object of fields that were collected with the last in front; of several
with one key the last gives the value and the first the place. -/
def objectOf (fields : Fields) : JsonValue :=
  .object (fields.foldr (fun f fs => Fields.put f.1 f.2 fs) [])

/-- **A reader in the middle of its work.** -/
structure Reader where
  frames : List Frame
  expected : Expected

namespace Reader

/-- The reader when a value is complete. -/
def settle (v : JsonValue) : List Frame → Reader
  | [] => ⟨[], .nothing v⟩
  | .item items :: frames => ⟨frames, .afterItem (v :: items)⟩
  | .field fields key :: frames => ⟨frames, .afterField ((key, v) :: fields)⟩

/-- The reader at the beginning of an array or object inside the frames. -/
def enter (frames : List Frame) (expected : Expected) : Except Flaw Reader :=
  if frames.length < nestingLimit then .ok ⟨frames, expected⟩ else .error .tooDeep

/-- The reader after the token with which a value begins. -/
def beginValue (frames : List Frame) : Token → Except Flaw Reader
  | .null => .ok (settle .null frames)
  | .bool b => .ok (settle (.bool b) frames)
  | .string g => .ok (settle (.string g) frames)
  | .number value => .ok (settle (.number value) frames)
  | .integer negative digits =>
    if digits.length ≤ numeralLimit then
      let n : Int := Text.decimalValue digits
      .ok (settle (.integer (if negative then -n else n)) frames)
    else .error (.longInteger digits.length)
  | .openArray => enter frames .itemOrEnd
  | .openObject => enter frames .keyOrEnd
  | _ => .error .notJson

/-- **The reader after one more token.** -/
def step (r : Reader) (token : Token) : Except Flaw Reader :=
  match r.expected, token with
  | .value, token => beginValue r.frames token
  | .itemOrEnd, .closeArray => .ok (settle (.array []) r.frames)
  | .itemOrEnd, token => beginValue (.item [] :: r.frames) token
  | .keyOrEnd, .closeObject => .ok (settle (.object []) r.frames)
  | .keyOrEnd, .string key => .ok ⟨r.frames, .colon [] key⟩
  | .key fields, .string key => .ok ⟨r.frames, .colon fields key⟩
  | .colon fields key, .colon => .ok ⟨.field fields key :: r.frames, .value⟩
  | .afterItem items, .comma => .ok ⟨.item items :: r.frames, .value⟩
  | .afterItem items, .closeArray => .ok (settle (arrayOf items) r.frames)
  | .afterField fields, .comma => .ok ⟨r.frames, .key fields⟩
  | .afterField fields, .closeObject => .ok (settle (objectOf fields) r.frames)
  | _, _ => .error .notJson

/-- The value that the rest of the tokens complete. -/
def finish (r : Reader) : List Token → Except Flaw JsonValue
  | [] =>
    match r.expected with
    | .nothing v => .ok v
    | _ => .error .notJson
  | token :: rest =>
    match r.step token with
    | .ok r' => r'.finish rest
    | .error flaw => .error flaw

end Reader

/-- **Reads a text as JSON.** -/
def read (g : Glyphs) : Except Flaw JsonValue :=
  Reader.finish ⟨[], .value⟩ (tokens g)

end Json

end Desinence
