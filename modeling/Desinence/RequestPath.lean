/-
The path of a request.

A path is given as in an address: behind it there may be a query or a fragment,
its first segment may name a host, some segments may mean the place itself or the
one above it, and any character may be written as a percent sign and two
hexadecimal digits. What remains when all that is settled begins with one slash.

No part of the program does any of this. `ofAddress` is what the client of its tests,
`TestClient` over `httpx`, makes of the path it is given, joined to the address of the
server, and FastAPI of what is sent: query and fragment are split off, dots are
settled, and escapes are resolved twice. `turned` is the path to which the router of
FastAPI looks when it knows no other.
-/
import Desinence.Text.Hexadecimal

set_option autoImplicit false

namespace Desinence

namespace RequestPath

/-- The address without its query and its fragment. -/
def withoutQuery (address : Text) : Text :=
  address.takeWhile fun c => c != '?' && c != '#'

/-- The path behind the name of a host, which two slashes announce. -/
def withoutHost : Text → Text
  | '/' :: '/' :: r => r.dropWhile (· != '/')
  | path => path

/-- The path with exactly one slash in front. -/
def rooted (path : Text) : Text :=
  '/' :: path.dropWhile (· == '/')

/-- The segments without those that mean a place by its relation to another: one
dot means the place itself, and two the one above it. The segments so far are
given from the last to the first; nothing is above the first. -/
def settleDots (sofar : List Text) : List Text → List Text
  | [] => sofar.reverse
  | segment :: rest =>
    if segment = ['.'] then settleDots sofar rest
    else if segment = ['.', '.'] then
      settleDots (if sofar = [[]] then sofar else sofar.tail) rest
    else settleDots (segment :: sofar) rest

/-- The path without dots. If nothing is left, a slash is. -/
def withoutDots (path : Text) : Text :=
  let settled := Text.joinWith ['/'] (settleDots [] (path.splitAt '/'))
  if settled.isEmpty then ['/'] else settled

/-- The character of an escaped byte. The bytes beyond ASCII do not occur in any
path that is known here and all count as the replacement character. -/
def charOfByte (n : Nat) : Char :=
  if n < 0x80 then Char.ofNat n else '\uFFFD'

/-- The text with its escapes resolved; a percent sign that begins none stands for
itself. -/
def unescape : Text → Text
  | [] => []
  | '%' :: a :: b :: r =>
    match hexValue? a, hexValue? b with
    | some x, some y => charOfByte (x * 16 + y) :: unescape r
    | _, _ => '%' :: unescape (a :: b :: r)
  | c :: r => c :: unescape r

/-- **The path that an address names.** Escapes are resolved on both sides, where
the request is sent and where it arrives. -/
def ofAddress (address : Text) : Text :=
  unescape (unescape (withoutDots (rooted (withoutHost (withoutQuery address)))))

/-- **The path with its end turned**: without slashes at the end if there are any,
and otherwise with one. -/
def turned (path : Text) : Text :=
  if path.getLast? = some '/' then (path.reverse.dropWhile (· == '/')).reverse
  else path ++ ['/']

end RequestPath

end Desinence
