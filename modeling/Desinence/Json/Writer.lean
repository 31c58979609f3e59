/-
Writing JSON.

The notation is compact. A number that is no integer is written with the fewest
digits that identify it: positionally if its first digit counts at least
ten-thousandths and less than ten to the sixteenth, and otherwise with an exponent
of a sign and at least two digits. Only quote mark, backslash and control
characters are escaped in strings. An infinite number and one that is none cannot
be written.

It is `json.dumps`, as responses use it: compact, not confined to ASCII, and
without numbers that are not finite.
-/
import Desinence.Json.Value
import Desinence.Number.Shortest
import Desinence.Text.Hexadecimal

set_option autoImplicit false

namespace Desinence

/-! ## Numbers -/

namespace Decimal

/-- The exponents of the first digit under which a number is written
positionally. -/
def isPositional (first : Int) : Bool :=
  -4 ≤ first && first < 16

/-- Digits written positionally; there is always a digit on both sides of the
point. -/
def positional (digits : Text) (first : Int) : Text :=
  if first < 0 then
    "0.".toList ++ List.replicate (-first - 1).toNat '0' ++ digits
  else
    let whole := first.toNat + 1
    let fraction := digits.drop whole
    digits.take whole ++ List.replicate (whole - digits.length) '0' ++
      '.' :: (if fraction.isEmpty then ['0'] else fraction)

/-- Digits written with an exponent. -/
def scientific (digits : Text) (first : Int) : Text :=
  let fraction := digits.drop 1
  digits.take 1 ++ (if fraction.isEmpty then [] else '.' :: fraction) ++
    'e' :: (if first < 0 then '-' else '+') :: Text.zeroPadded 2 first.natAbs

end Decimal

/-- **The text of a number**; one that is not finite has none. -/
def Binary64.text? : Binary64 → Option Text
  | .infinite _ => none
  | .nan => none
  | .finite negative m e =>
    let sign := if negative then ['-'] else []
    if m = 0 then some (sign ++ "0.0".toList)
    else
      let (digits, first) := (Decimal.shortest m e).significant
      some (sign ++
        if Decimal.isPositional first then Decimal.positional digits first
        else Decimal.scientific digits first)

namespace Json

/-! ## Strings -/

/-- How a glyph is written in a string. -/
def escapeGlyph : Glyph → Glyphs
  | .half n => [.half n]
  | .char c =>
    if c = '"' then Text.glyphs ['\\', '"']
    else if c = '\\' then Text.glyphs ['\\', '\\']
    else if c = '\n' then Text.glyphs ['\\', 'n']
    else if c = '\r' then Text.glyphs ['\\', 'r']
    else if c = '\t' then Text.glyphs ['\\', 't']
    else if c = '\x08' then Text.glyphs ['\\', 'b']
    else if c = '\x0c' then Text.glyphs ['\\', 'f']
    else if c.toNat < 0x20 then Text.glyphs ('\\' :: 'u' :: hexDigits 4 c.toNat)
    else [.char c]

/-- A string between its quote marks. -/
def writeString (g : Glyphs) : Glyphs :=
  .char '"' :: g.flatMap escapeGlyph ++ [.char '"']

/-! ## Values -/

/-- Two written items, with a comma between them unless the second is empty. -/
def besides (item rest : Glyphs) : Glyphs :=
  if rest.isEmpty then item else item ++ .char ',' :: rest

mutual

/-- **A value, written**; `none` if a number in it cannot be. -/
def write : JsonValue → Option Glyphs
  | .null => some (Text.glyphs "null".toList)
  | .bool true => some (Text.glyphs "true".toList)
  | .bool false => some (Text.glyphs "false".toList)
  | .integer n => some (Text.ofInt n).glyphs
  | .number x => x.text?.map Text.glyphs
  | .string g => some (writeString g)
  | .array items => (writeItems items).map fun g => .char '[' :: g ++ [.char ']']
  | .object fields => (writeFields fields).map fun g => .char '{' :: g ++ [.char '}']

/-- Items, written with commas between them. -/
def writeItems : List JsonValue → Option Glyphs
  | [] => some []
  | v :: rest => do return besides (← write v) (← writeItems rest)

/-- A field, written with a colon behind its key. -/
def writeField : Glyphs × JsonValue → Option Glyphs
  | (key, v) => do return writeString key ++ .char ':' :: (← write v)

/-- Fields, written with commas between them. -/
def writeFields : List (Glyphs × JsonValue) → Option Glyphs
  | [] => some []
  | f :: rest => do return besides (← writeField f) (← writeFields rest)

end

end Json

end Desinence
