/-
Decoding what was encoded.

A character is spelled in one to four bytes, by its number. Each spelling is what
the decoder expects: its lead byte asks for as many bytes as follow, these are
continuations, and the second is within the narrower range of the four lead bytes
that have one. These ranges are where the shorter spellings end (E0, F0), where
the surrogates begin (ED), and where the last plane ends (F4), so that here it
matters that a character is a scalar value in its shortest spelling.
-/
import Desinence.Text.Utf8

set_option autoImplicit false

namespace Desinence

namespace Utf8

/-! ## Bytes by their numbers -/

theorem toNat_ofNat_of_lt {n : Nat} (h : n < 256) : (UInt8.ofNat n).toNat = n := by
  rw [UInt8.toNat_ofNat', Nat.mod_eq_of_lt h]

/-- How many bytes a lead byte asks for. -/
theorem tailLength?_ofNat : ∀ n < 256, tailLength? (UInt8.ofNat n) =
    if n < 0x80 then some 0 else if 0xC2 ≤ n ∧ n ≤ 0xDF then some 1
    else if 0xE0 ≤ n ∧ n ≤ 0xEF then some 2 else if 0xF0 ≤ n ∧ n ≤ 0xF4 then some 3 else none := by
  decide +kernel

theorem toNat_continuation (n : Nat) : (continuation n).toNat = 0x80 + n % 64 := by
  rw [continuation, toNat_ofNat_of_lt (by omega)]

theorem payload_continuation (n : Nat) : payload (continuation n) = n % 64 := by
  rw [payload, toNat_continuation]
  omega

theorem isContinuation_continuation (n : Nat) : isContinuation (continuation n) = true := by
  simp only [isContinuation, Bool.and_eq_true, decide_eq_true_eq, UInt8.le_iff_toNat_le,
    toNat_continuation]
  constructor
  · exact Nat.le_add_right _ _
  · show 0x80 + n % 64 ≤ 0xBF
    omega

/-- **The second byte** may have any payload, but for four lead bytes. -/
theorem isSecond_continuation {lead : UInt8} {n : Nat}
    (hE0 : lead.toNat = 0xE0 → 0x20 ≤ n % 64) (hED : lead.toNat = 0xED → n % 64 < 0x20)
    (hF0 : lead.toNat = 0xF0 → 0x10 ≤ n % 64) (hF4 : lead.toNat = 0xF4 → n % 64 < 0x10) :
    isSecond lead (continuation n) = true := by
  rw [isSecond, isContinuation_continuation, Bool.true_and]
  by_cases h1 : lead = 0xE0
  · have hn := hE0 (congrArg UInt8.toNat h1)
    rw [if_pos h1, decide_eq_true_eq, UInt8.le_iff_toNat_le, toNat_continuation]
    show 0xA0 ≤ 0x80 + n % 64
    omega
  by_cases h2 : lead = 0xED
  · have hn := hED (congrArg UInt8.toNat h2)
    rw [if_neg h1, if_pos h2, decide_eq_true_eq, UInt8.lt_iff_toNat_lt, toNat_continuation]
    show 0x80 + n % 64 < 0xA0
    omega
  by_cases h3 : lead = 0xF0
  · have hn := hF0 (congrArg UInt8.toNat h3)
    rw [if_neg h1, if_neg h2, if_pos h3, decide_eq_true_eq, UInt8.le_iff_toNat_le,
      toNat_continuation]
    show 0x90 ≤ 0x80 + n % 64
    omega
  by_cases h4 : lead = 0xF4
  · have hn := hF4 (congrArg UInt8.toNat h4)
    rw [if_neg h1, if_neg h2, if_neg h3, if_pos h4, decide_eq_true_eq, UInt8.lt_iff_toNat_lt,
      toNat_continuation]
    show 0x80 + n % 64 < 0x90
    omega
  rw [if_neg h1, if_neg h2, if_neg h3, if_neg h4]

/-! ## One character -/

section Sequence

variable {offset : Nat} {b c d e : UInt8} {rest : Bytes}

theorem decodeFrom_one (hb : tailLength? b = some 0) :
    decodeFrom offset (b :: rest) = (Char.ofNat b.toNat :: ·) <$> decodeFrom (offset + 1) rest := by
  rw [decodeFrom]
  simp [hb]

theorem decodeFrom_two (hb : tailLength? b = some 1) (hc : isSecond b c = true) :
    decodeFrom offset (b :: c :: rest) =
      (Char.ofNat (b.toNat % 32 * 64 + payload c) :: ·) <$> decodeFrom (offset + 2) rest := by
  rw [decodeFrom]
  simp [hb, hc]

theorem decodeFrom_three (hb : tailLength? b = some 2) (hc : isSecond b c = true)
    (hd : isContinuation d = true) :
    decodeFrom offset (b :: c :: d :: rest) =
      (Char.ofNat ((b.toNat % 16 * 64 + payload c) * 64 + payload d) :: ·) <$>
        decodeFrom (offset + 3) rest := by
  rw [decodeFrom]
  simp [hb, hc, hd]

theorem decodeFrom_four (hb : tailLength? b = some 3) (hc : isSecond b c = true)
    (hd : isContinuation d = true) (he : isContinuation e = true) :
    decodeFrom offset (b :: c :: d :: e :: rest) =
      (Char.ofNat (((b.toNat % 8 * 64 + payload c) * 64 + payload d) * 64 + payload e) :: ·) <$>
        decodeFrom (offset + 4) rest := by
  rw [decodeFrom]
  simp [hb, hc, hd, he]

end Sequence

/-- **The bytes of a character** are read as that character, whatever follows. -/
theorem decodeFrom_encodeChar (offset : Nat) (c : Char) (rest : Bytes) :
    decodeFrom offset (encodeChar c ++ rest) =
      (c :: ·) <$> decodeFrom (offset + (encodeChar c).length) rest := by
  have hv : c.toNat < 0xD800 ∨ (0xDFFF < c.toNat ∧ c.toNat < 0x110000) := c.valid
  have hc : Char.ofNat c.toNat = c := Char.ofNat_toNat c
  rw [encodeChar]
  -- From here on only the number counts: its range, and that it is the character's.
  generalize c.toNat = n at hv hc
  by_cases h1 : n < 0x80
  · have hb : tailLength? (UInt8.ofNat n) = some 0 := by
      rw [tailLength?_ofNat n (by omega), if_pos h1]
    rw [if_pos h1, List.singleton_append, decodeFrom_one hb, toNat_ofNat_of_lt (by omega), hc]
    rfl
  by_cases h2 : n < 0x800
  · have hlead := toNat_ofNat_of_lt (n := 0xC0 + n / 64) (by omega)
    have hb : tailLength? (UInt8.ofNat (0xC0 + n / 64)) = some 1 := by
      rw [tailLength?_ofNat _ (by omega), if_neg (by omega), if_pos (by omega)]
    have hs : isSecond (UInt8.ofNat (0xC0 + n / 64)) (continuation n) = true := by
      apply isSecond_continuation <;> omega
    have hvalue : (0xC0 + n / 64) % 32 * 64 + n % 64 = n := by omega
    rw [if_neg h1, if_pos h2, List.cons_append, List.singleton_append, decodeFrom_two hb hs, hlead,
      payload_continuation, hvalue, hc]
    rfl
  by_cases h3 : n < 0x10000
  · have hlead := toNat_ofNat_of_lt (n := 0xE0 + n / 64 / 64) (by omega)
    have hb : tailLength? (UInt8.ofNat (0xE0 + n / 64 / 64)) = some 2 := by
      rw [tailLength?_ofNat _ (by omega), if_neg (by omega), if_neg (by omega), if_pos (by omega)]
    -- Behind E0 the number is above the two-byte ones, behind ED it is below the
    -- surrogates.
    have hs : isSecond (UInt8.ofNat (0xE0 + n / 64 / 64)) (continuation (n / 64)) = true := by
      apply isSecond_continuation <;> omega
    have hvalue : ((0xE0 + n / 64 / 64) % 16 * 64 + n / 64 % 64) * 64 + n % 64 = n := by omega
    rw [if_neg h1, if_neg h2, if_pos h3, List.cons_append, List.cons_append, List.singleton_append,
      decodeFrom_three hb hs (isContinuation_continuation n), hlead, payload_continuation,
      payload_continuation, hvalue, hc]
    rfl
  · have hlead := toNat_ofNat_of_lt (n := 0xF0 + n / 64 / 64 / 64) (by omega)
    have hb : tailLength? (UInt8.ofNat (0xF0 + n / 64 / 64 / 64)) = some 3 := by
      rw [tailLength?_ofNat _ (by omega), if_neg (by omega), if_neg (by omega), if_neg (by omega),
        if_pos (by omega)]
    have hs : isSecond (UInt8.ofNat (0xF0 + n / 64 / 64 / 64)) (continuation (n / 64 / 64))
        = true := by
      apply isSecond_continuation <;> omega
    have hvalue : (((0xF0 + n / 64 / 64 / 64) % 8 * 64 + n / 64 / 64 % 64) * 64 + n / 64 % 64) * 64
        + n % 64 = n := by omega
    rw [if_neg h1, if_neg h2, if_neg h3, List.cons_append, List.cons_append, List.cons_append,
      List.singleton_append, decodeFrom_four hb hs (isContinuation_continuation _)
        (isContinuation_continuation _), hlead, payload_continuation, payload_continuation,
      payload_continuation, hvalue, hc]
    rfl

/-! ## Texts -/

theorem decodeFrom_encode (offset : Nat) (t : Text) : decodeFrom offset (encode t) = .ok t := by
  induction t generalizing offset with
  | nil => rfl
  | cons c t ih =>
    have hcons : encode (c :: t) = encodeChar c ++ encode t := List.flatMap_cons
    rw [hcons, decodeFrom_encodeChar, ih]
    rfl

/-- **Decoding the bytes of a text** gives the text. -/
theorem decode_encode (t : Text) : decode (encode t) = .ok t :=
  decodeFrom_encode 0 t

end Utf8

end Desinence
