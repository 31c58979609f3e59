/-
Files of environment variables.

Each line gives a variable a value: a key, an equals sign, the value. Blanks may
stand around each, the word `export` in front of the key, and a comment behind
the value. A key or value may be quoted; a quoted value may run over several
lines and has escapes. A value without quotes ends at a comment that has a blank
in front of it, or with the line. A line that is none of this is passed over, and
a key without an equals sign names a variable without giving it a value.

A value may refer to other variables, by a dollar sign and the name between curly
brackets. Behind the name, a colon and a hyphen, there may be a text that stands for
a variable that is not set.

The files are read as `load_dotenv` reads them, with the order to override.
-/
import Desinence.Text.Blank

set_option autoImplicit false

namespace Desinence

namespace EnvFile

/-- A blank that does not end the line. -/
def isInlineBlank (c : Char) : Bool :=
  isBlank c && c != '\n' && c != '\r'

/-- The rest behind the blanks of a line. -/
def skipInline (t : Text) : Text :=
  t.dropWhile isInlineBlank

/-- The rest behind the word `export` and the blanks after it, if both are
there. -/
def skipExport (t : Text) : Text :=
  let word := "export".toList
  let r := t.drop word.length
  if word.isPrefixOf t && (r.head?.map isInlineBlank).getD false then skipInline r else t

/-- The rest of the line and what ends it. -/
def restOfLine (t : Text) : Text :=
  (t.dropWhile fun c => c != '\n' && c != '\r').drop 1

/-- The inside of a quoted text behind its opening mark, and the rest. It ends at
the first mark that has no backslash in front of it; if there is none, at the
last mark. -/
def quotedInside (mark : Char) : Text → Option (Text × Text)
  | [] => none
  | '\\' :: c :: r =>
    if c = mark then
      match quotedInside mark r with
      | some (inside, rest) => some ('\\' :: c :: inside, rest)
      | none => some (['\\'], r)
    else (quotedInside mark (c :: r)).map fun p => ('\\' :: p.1, p.2)
  | c :: r =>
    if c = mark then some ([], r) else (quotedInside mark r).map fun p => (c :: p.1, p.2)

/-- What the letters of double-quoted escapes stand for. -/
def doubleEscape? (c : Char) : Option Char :=
  if c = '\\' ∨ c = '\'' ∨ c = '"' then some c
  else ([('a', '\x07'), ('b', '\x08'), ('f', '\x0c'), ('n', '\n'), ('r', '\r'), ('t', '\t'),
    ('v', '\x0b')] : List (Char × Char)).lookup c

/-- The two escapes of single quotes. -/
def singleEscape? (c : Char) : Option Char :=
  if c = '\\' ∨ c = '\'' then some c else none

/-- The text with its escapes resolved; a backslash that begins none stands for
itself. -/
def unescape (escape? : Char → Option Char) : Text → Text
  | [] => []
  | '\\' :: c :: r =>
    match escape? c with
    | some d => d :: unescape escape? r
    | none => '\\' :: unescape escape? (c :: r)
  | c :: r => c :: unescape escape? r

/-- A value without quotes, up to its comment. -/
def withoutComment : Text → Text
  | [] => []
  | c :: r =>
    if isBlank c && (Text.skipBlanks r).head? == some '#' then [] else c :: withoutComment r

/-- **A key**, `none` in front of a comment. The fault is where the key should
have been. -/
def readKey (t : Text) : Except Text (Option Text × Text) :=
  match t with
  | '#' :: _ => .ok (none, t)
  | '\'' :: r =>
    let key := r.takeWhile (· != '\'')
    match r.drop key.length with
    | _ :: rest => if key.isEmpty then .error t else .ok (some key, rest)
    | [] => .error t
  | _ =>
    let key := t.takeWhile fun c => c != '=' && c != '#' && !isBlank c
    if key.isEmpty then .error t else .ok (some key, t.drop key.length)

/-- **A value.** The fault is where its opening quote mark is. -/
def readValue (t : Text) : Except Text (Text × Text) :=
  match t with
  | '\'' :: r =>
    match quotedInside '\'' r with
    | some (inside, rest) => .ok (unescape singleEscape? inside, rest)
    | none => .error t
  | '"' :: r =>
    match quotedInside '"' r with
    | some (inside, rest) => .ok (unescape doubleEscape? inside, rest)
    | none => .error t
  | _ =>
    let line := t.takeWhile fun c => c != '\n' && c != '\r'
    .ok (Text.trimEnd (withoutComment line), t.drop line.length)

/-- The rest behind a comment, if there is one. -/
def skipComment (t : Text) : Text :=
  match skipInline t with
  | '#' :: r => r.dropWhile fun c => c != '\n' && c != '\r'
  | _ => t

/-- The rest behind the end of the line. The fault is where something else
stands. -/
def readLineEnd (t : Text) : Except Text Text :=
  match skipInline t with
  | [] => .ok []
  | '\r' :: '\n' :: r => .ok r
  | c :: r => if c = '\n' ∨ c = '\r' then .ok r else .error t

/-- Variables, each with its value if it is given one. -/
abbrev Assignments := List (Text × Option Text)

/-- One line: its key and value, and the rest; the fault is where it goes
wrong. -/
def readLine (t : Text) : Except Text (Option (Text × Option Text) × Text) := do
  let (key, t) ← readKey (skipExport t)
  let t := skipInline t
  let (value, t) ← match t with
    | '=' :: r => (fun p => (some p.1, p.2)) <$> readValue (skipInline r)
    | _ => pure (none, t)
  let rest ← readLineEnd (skipComment t)
  return (key.map (·, value), rest)

/-- The variables of a text behind its first `skip` characters, which belong to a
line that has been read. -/
def assignmentsFrom : Nat → Text → Assignments
  | _, [] => []
  | skip + 1, _ :: r => assignmentsFrom skip r
  | 0, c :: r =>
    if isBlank c then assignmentsFrom 0 r
    else match readLine (c :: r) with
      | .ok (found, rest) => found.toList ++ assignmentsFrom (r.length - rest.length) r
      | .error place => assignmentsFrom (r.length - (restOfLine place).length) r

/-- **The variables of a text**, in the order of their lines. -/
def assignments (t : Text) : Assignments :=
  assignmentsFrom 0 t

/-! ## References -/

/-- A reference behind its dollar sign and opening bracket: the name, what stands for
it if it is not set, and the length with the closing bracket. -/
def readReference (t : Text) : Option (Text × Text × Nat) :=
  let name := t.takeWhile fun c => c != '}' && c != ':'
  match t.drop name.length with
  | '}' :: _ => some (name, [], name.length + 1)
  | ':' :: '-' :: r =>
    let default := r.takeWhile (· != '}')
    if default.length < r.length then some (name, default, name.length + default.length + 3)
    else none
  | _ => none

/-- The text behind its first `skip` characters, which belong to a reference that has
been resolved, with its references resolved. -/
def interpolateFrom (value? : Text → Option Text) : Nat → Text → Text
  | _, [] => []
  | skip + 1, _ :: r => interpolateFrom value? skip r
  | 0, c :: r =>
    match c, r with
    | '$', '{' :: inside =>
      match readReference inside with
      | some (name, default, length) =>
        (value? name).getD default ++ interpolateFrom value? (length + 1) r
      | none => c :: interpolateFrom value? 0 r
    | _, _ => c :: interpolateFrom value? 0 r

/-- **The text with its references resolved.** A name that stands for nothing leaves
nothing, unless the reference says what to put. -/
def interpolate (value? : Text → Option Text) (t : Text) : Text :=
  interpolateFrom value? 0 t

end EnvFile

end Desinence
