/-
JSON values.

Integers are exact, all other numbers are binary ones. The fields of an object are
kept in the order in which their keys came first; a key that comes again gives its
field a new value and leaves it where it is.

The values are those of `json.loads`, objects with the order of a `dict`.
-/
import Desinence.Json.Glyph
import Desinence.Number.Binary64

set_option autoImplicit false

namespace Desinence

/-- **A JSON value.** -/
inductive JsonValue
  | null
  | bool (value : Bool)
  | integer (value : Int)
  | number (value : Binary64)
  | string (glyphs : Glyphs)
  | array (items : List JsonValue)
  | object (fields : List (Glyphs × JsonValue))

namespace Json

/-- The fields of an object. -/
abbrev Fields := List (Glyphs × JsonValue)

namespace Fields

/-- The fields with a value for a key. -/
def put (key : Glyphs) (value : JsonValue) : Fields → Fields
  | [] => [(key, value)]
  | f :: fs => if f.1 = key then (key, value) :: fs else f :: put key value fs

/-- The value of a key. -/
def get? (fields : Fields) (key : Glyphs) : Option JsonValue :=
  (fields.find? fun f => f.1 == key).map (·.2)

/-- The first field decides, if it has the key. -/
theorem get?_cons (f : Glyphs × JsonValue) (fs : Fields) (key : Glyphs) :
    get? (f :: fs) key = if f.1 = key then some f.2 else get? fs key := by
  by_cases h : f.1 = key <;> simp [get?, h]

/-- **A key has the value that was put last.** -/
theorem get?_put (fields : Fields) (key key' : Glyphs) (value : JsonValue) :
    get? (put key value fields) key' = if key = key' then some value else get? fields key' := by
  induction fields with
  | nil => rw [put, get?_cons]
  | cons f fs ih =>
    unfold put
    split
    next h => rw [get?_cons, get?_cons, h]; split <;> rfl
    next h => rw [get?_cons, get?_cons, ih]; grind

end Fields

end Json

end Desinence
