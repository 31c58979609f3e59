/-
File paths.

A path is a root and a list of parts. The root is nothing, one slash or two (a
path that begins with exactly two slashes keeps both). Reading a path drops what
has no meaning in it: doubled slashes, a slash at the end, and the part `.`; it
keeps `..`, whose meaning depends on the files. A path without any parts or root
is the working directory, written as a dot.
-/
import Desinence.Text

set_option autoImplicit false

namespace Desinence

/-- **A path**: `root` slashes and then the parts. -/
structure Path where
  root : Nat
  parts : List Text
  deriving Repr, DecidableEq

namespace Path

/-- The number of slashes a path keeps of those at its beginning. -/
def rootOf (t : Text) : Nat :=
  match (t.takeWhile (· == '/')).length with
  | 0 => 0
  | 2 => 2
  | _ => 1

/-- **The path that a text names.** -/
def ofText (t : Text) : Path :=
  ⟨rootOf t, (t.splitAt '/').filter fun p => !p.isEmpty && p != ['.']⟩

/-- The text of a path. -/
def text (p : Path) : Text :=
  if p.root = 0 ∧ p.parts = [] then ['.']
  else List.replicate p.root '/' ++ Text.joinWith ['/'] p.parts

/-- The path without its last part. -/
def parent (p : Path) : Path :=
  { p with parts := p.parts.dropLast }

/-- The last part; empty if there is none. -/
def name (p : Path) : Text :=
  p.parts.getLastD []

/-- The path of something inside. -/
def child (p : Path) (name : Text) : Path :=
  { p with parts := p.parts ++ [name] }

/-- The part of a name in front of its last dot. A dot at the very beginning or
the very end of the name separates nothing. -/
def stemOf (name : Text) : Text :=
  let tail := (name.reverse.takeWhile (· != '.')).length
  let stem := name.take (name.length - tail - 1)
  if tail = 0 ∨ tail = name.length ∨ stem.isEmpty then name else stem

/-- The last part without its extension. -/
def stem (p : Path) : Text :=
  stemOf p.name

end Path

end Desinence
