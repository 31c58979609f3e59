/-
UTF-8, read strictly.

Each scalar value has one spelling of one to four bytes. The lead byte fixes the
number of continuation bytes, and the first of these has a narrower range after
four of the lead bytes: that excludes overlong spellings, surrogates and values
beyond U+10FFFF. What violates this is reported by the bytes that were read as
part of the broken sequence, never more than three.

It is the strict `utf-8` codec, by which `load_rules` decodes a file.
-/
import Desinence.Text

set_option autoImplicit false

namespace Desinence

/-- The bytes of a file. -/
abbrev Bytes := List UInt8

namespace Utf8

/-- Why a sequence of bytes is no spelling of a character. -/
inductive Flaw
  | badStart
  | badContinuation
  | endOfData
  deriving Repr, DecidableEq

/-- A broken sequence: its offset, its bytes' number, its lead byte, and what is
wrong with it. -/
structure Fault where
  offset : Nat
  length : Nat
  lead : UInt8
  flaw : Flaw
  deriving Repr, DecidableEq

/-- Continuation bytes are 80 to BF. -/
def isContinuation (b : UInt8) : Bool :=
  0x80 ≤ b && b ≤ 0xBF

/-- The bytes that may follow a lead byte: after E0 no overlong spelling, after
ED no surrogate, after F0 no overlong spelling, after F4 nothing past the last
plane. -/
def isSecond (lead b : UInt8) : Bool :=
  isContinuation b &&
    (if lead = 0xE0 then 0xA0 ≤ b
     else if lead = 0xED then b < 0xA0
     else if lead = 0xF0 then 0x90 ≤ b
     else if lead = 0xF4 then b < 0x90
     else true)

/-- How many continuation bytes a lead byte asks for; `none` for a byte that
starts nothing. -/
def tailLength? (b : UInt8) : Option Nat :=
  if b < 0x80 then some 0
  else if 0xC2 ≤ b && b ≤ 0xDF then some 1
  else if 0xE0 ≤ b && b ≤ 0xEF then some 2
  else if 0xF0 ≤ b && b ≤ 0xF4 then some 3
  else none

/-- The six payload bits of a continuation byte. -/
def payload (b : UInt8) : Nat :=
  b.toNat % 64

/-- **Strict decoding** of the bytes that start at `offset`. -/
def decodeFrom (offset : Nat) : Bytes → Except Fault Text
  | [] => .ok []
  | b :: r =>
    match tailLength? b with
    | none => .error ⟨offset, 1, b, .badStart⟩
    | some 0 => (Char.ofNat b.toNat :: ·) <$> decodeFrom (offset + 1) r
    | some tail =>
      match r with
      | [] => .error ⟨offset, 1, b, .endOfData⟩
      | c :: r =>
        if !isSecond b c then .error ⟨offset, 1, b, .badContinuation⟩
        else if tail = 1 then
          (Char.ofNat (b.toNat % 32 * 64 + payload c) :: ·) <$> decodeFrom (offset + 2) r
        else match r with
          | [] => .error ⟨offset, 2, b, .endOfData⟩
          | d :: r =>
            if !isContinuation d then .error ⟨offset, 2, b, .badContinuation⟩
            else if tail = 2 then
              (Char.ofNat ((b.toNat % 16 * 64 + payload c) * 64 + payload d) :: ·) <$>
                decodeFrom (offset + 3) r
            else match r with
              | [] => .error ⟨offset, 3, b, .endOfData⟩
              | e :: r =>
                if !isContinuation e then .error ⟨offset, 3, b, .badContinuation⟩
                else
                  (Char.ofNat
                    (((b.toNat % 8 * 64 + payload c) * 64 + payload d) * 64 + payload e) :: ·) <$>
                    decodeFrom (offset + 4) r

/-- The text that the bytes spell. -/
def decode (bytes : Bytes) : Except Fault Text :=
  decodeFrom 0 bytes

/-- A continuation byte with six payload bits. -/
def continuation (n : Nat) : UInt8 :=
  UInt8.ofNat (0x80 + n % 64)

/-- The spelling of a character. -/
def encodeChar (c : Char) : Bytes :=
  let n := c.toNat
  if n < 0x80 then [UInt8.ofNat n]
  else if n < 0x800 then [UInt8.ofNat (0xC0 + n / 64), continuation n]
  else if n < 0x10000 then
    [UInt8.ofNat (0xE0 + n / 64 / 64), continuation (n / 64), continuation n]
  else
    [UInt8.ofNat (0xF0 + n / 64 / 64 / 64), continuation (n / 64 / 64), continuation (n / 64),
      continuation n]

/-- **The bytes of a text.** -/
def encode (t : Text) : Bytes :=
  t.flatMap encodeChar

end Utf8

end Desinence
