/-
What a body asks for.

A body asks for a text if it spells, in the grammar of JSON, an object whose field
`text` is that text, and the text is not empty. Nothing else gets a text out of a
body, and no text is out of reach: the object that has it as its only field, written
and sent, asks for it.
-/
import Desinence.RequestBody
import Desinence.Proofs.Json.Derivation
import Desinence.Proofs.Json.Strings
import Desinence.Proofs.Text.Utf8

set_option autoImplicit false

namespace Desinence

/-- **The body asks for the text.** The grammar says which texts spell an object: there may
be blanks around every lexeme, no more than 960 arrays and objects open at one time, and no
integer of more digits than `numeralLimit`. Of several members `text` the last one counts,
and other members do not matter. -/
structure Asks (body text : Text) : Prop where
  ne_nil : text ≠ []
  object : ∃ g fields, Json.glyphsOf? body = some g ∧ Json.Spells g (.object fields) ∧
    Json.Fields.get? fields (Text.glyphs "text".toList) = some (.string text.glyphs)

/-! ## The text of a body -/

theorem textField_eq_ok_iff {fields : Json.Fields} {t : Text} :
    textField fields = .ok t ↔
      t ≠ [] ∧ fields.get? (Text.glyphs "text".toList) = some (.string t.glyphs) := by
  constructor
  · intro h
    rw [textField] at h
    split at h
    · exact absurd h (by simp)
    next g hget =>
      split at h
      · exact absurd h (by simp)
      · exact absurd h (by simp)
      next u hne hu =>
        obtain rfl := Except.ok.inj h
        refine ⟨hne, ?_⟩
        rw [hget, Glyphs.eq_glyphs_of_text? hu]
    · exact absurd h (by simp)
  · rintro ⟨hne, hget⟩
    rw [textField, hget]
    simp only [Glyphs.text?_glyphs]

theorem textOf_eq_ok_iff {v : JsonValue} {t : Text} :
    textOf v = .ok t ↔ ∃ fields, v = .object fields ∧ textField fields = .ok t := by
  constructor
  · intro h
    cases v with
    | object fields => exact ⟨fields, rfl, h⟩
    | _ => exact absurd h (by simp [textOf])
  · rintro ⟨fields, rfl, h⟩
    exact h

/-- **A body has a text exactly if it asks for it.** -/
theorem requestedText_eq_ok_iff {body t : Text} : requestedText body = .ok t ↔ Asks body t := by
  constructor
  · intro h
    rw [requestedText] at h
    split at h
    · exact absurd h (by simp)
    split at h
    next v hread =>
      obtain ⟨g, hg, hv⟩ := Option.map_eq_some_iff.1 hread
      obtain ⟨fields, rfl, hfield⟩ := textOf_eq_ok_iff.1 h
      obtain ⟨hne, hget⟩ := textField_eq_ok_iff.1 hfield
      exact ⟨hne, g, fields, hg, Json.read_eq_ok_iff.1 hv, hget⟩
    · exact absurd h (by simp)
    · exact absurd h (by simp)
  · rintro ⟨hne, g, fields, hg, hspells, hget⟩
    have hread : Json.read g = .ok (.object fields) := Json.read_eq_ok_iff.2 hspells
    have hbody : body ≠ [] := by
      rintro rfl
      -- The empty text is not JSON.
      obtain rfl := Option.some.inj hg
      have hempty : Json.read (Json.withoutMark []).glyphs = .error .notJson := rfl
      rw [hempty] at hread
      exact absurd hread (by simp)
    have htext : textOf (.object fields) = .ok t :=
      textOf_eq_ok_iff.2 ⟨fields, rfl, textField_eq_ok_iff.2 ⟨hne, hget⟩⟩
    rw [requestedText, if_neg (by simpa using hbody), hg, Option.map_some, hread]
    exact htext

/-- Whether a body asks for a text can be computed. -/
instance (body t : Text) : Decidable (Asks body t) :=
  decidable_of_iff ((requestedText body).toOption = some t) <| by
    rw [← requestedText_eq_ok_iff]
    cases requestedText body <;> simp [Except.toOption]

/-! ## The body of a text -/

/-- The object that asks for a text and has nothing else in it. -/
def askingFor (t : Text) : JsonValue :=
  .object [(Text.glyphs "text".toList, .string t.glyphs)]

namespace Json

/-- What is written of a text is a text. -/
theorem exists_escaped (t : Text) : ∃ u : Text, t.glyphs.flatMap escapeGlyph = u.glyphs := by
  have hchar : ∀ c, ∃ u : Text, escapeGlyph (.char c) = u.glyphs := by
    intro c
    rw [escapeGlyph]
    repeat (split; exact ⟨_, rfl⟩)
    exact ⟨[c], rfl⟩
  induction t with
  | nil => exact ⟨[], rfl⟩
  | cons c t ih =>
    obtain ⟨u, hu⟩ := hchar c
    obtain ⟨v, hv⟩ := ih
    refine ⟨u ++ v, ?_⟩
    rw [Text.glyphs, List.map_cons, ← Text.glyphs, List.flatMap_cons, hu, hv, Text.glyphs,
      Text.glyphs, Text.glyphs, List.map_append]

/-- The written object, piece by piece. -/
theorem write_askingFor (t : Text) :
    write (askingFor t) = some (.char '{' :: (writeString (Text.glyphs "text".toList) ++
      .char ':' :: (writeString t.glyphs ++ [.char '}']))) := by
  simp [askingFor, write, writeFields, writeField, besides]

/-- **The written object spells the object.** -/
theorem spells_askingFor (t : Text) :
    Spells (.char '{' :: (writeString (Text.glyphs "text".toList) ++
      .char ':' :: (writeString t.glyphs ++ [.char '}']))) (askingFor t) := by
  have hkey : Lexeme (writeString (Text.glyphs "text".toList))
      (.string (Text.glyphs "text".toList)) := lexeme_writeString _
  have hopen : Lexeme [.char '{'] .openObject := .mark (by simp [marks])
  have hcolon : Lexeme [.char ':'] .colon := .mark (by simp [marks])
  have hclose : Lexeme [.char '}'] .closeObject := .mark (by simp [marks])
  have hend : Lexes [] [] := .nil (by simp [Spaces])
  refine ⟨[.openObject, .string (Text.glyphs "text".toList), .colon, .string t.glyphs,
    .closeObject], ?_, ?_⟩
  · exact .lexeme_append hopen (.lexeme_append hkey (.lexeme_append hcolon
      (.lexeme_append (lexeme_writeString t) (.lexeme_append hclose hend))))
  · exact @Derives.object 0 [(Text.glyphs "text".toList, [.string t.glyphs], .string t.glyphs)]
      (by decide) (List.forall_mem_singleton.2 .string)

/-- **Two characters of ASCII** in front, as JSON has them, show that a body is UTF-8. -/
theorem glyphsOf?_of_ascii {a b : Char} {t : Text} (ha : 0 < a.toNat ∧ a.toNat < 0x80)
    (hb : 0 < b.toNat ∧ b.toNat < 0x80) :
    glyphsOf? (a :: b :: t) = some (Text.glyphs (a :: b :: t)) := by
  have hbyte : ∀ {c : Char}, 0 < c.toNat ∧ c.toNat < 0x80 →
      Utf8.encodeChar c = [UInt8.ofNat c.toNat] ∧ UInt8.ofNat c.toNat ≠ 0 := by
    rintro c ⟨hpos, hlt⟩
    refine ⟨if_pos hlt, fun hzero => ?_⟩
    have hnat := congrArg UInt8.toNat hzero
    rw [Utf8.toNat_ofNat_of_lt (Nat.lt_trans hlt (by decide))] at hnat
    exact Nat.ne_of_gt hpos hnat
  have hbytes : Utf8.encode (a :: b :: t) =
      UInt8.ofNat a.toNat :: UInt8.ofNat b.toNat :: Utf8.encode t := by
    rw [Utf8.encode, List.flatMap_cons, List.flatMap_cons, (hbyte ha).1, (hbyte hb).1]
    rfl
  have hmark : a ≠ '\uFEFF' := by
    rintro rfl
    exact absurd ha.2 (by decide)
  rw [glyphsOf?, hbytes, Encoding.ofBytes_of_ne_zero (hbyte ha).2 (hbyte hb).2]
  dsimp only
  rw [withoutMark, if_neg hmark]

end Json

/-- **Every text but the empty one can be asked for**, by the object written for
it. -/
theorem exists_asks {t : Text} (ht : t ≠ []) :
    ∃ body : Text, Json.write (askingFor t) = some body.glyphs ∧ Asks body t := by
  obtain ⟨u, hu⟩ := Json.exists_escaped t
  have hbody : Text.glyphs ('{' :: '"' :: ("text\":\"".toList ++ (u ++ "\"\x7d".toList))) =
      .char '{' :: (Json.writeString (Text.glyphs "text".toList) ++
        .char ':' :: (Json.writeString t.glyphs ++ [.char '}'])) := by
    have ht' : Json.writeString t.glyphs = .char '"' :: u.glyphs ++ [.char '"'] := by
      rw [Json.writeString, hu]
    rw [ht']
    simp [Text.glyphs, Json.writeString, Json.escapeGlyph]
  refine ⟨_, (Json.write_askingFor t).trans (congrArg some hbody.symm), ht, _, _, ?_,
    Json.spells_askingFor t, rfl⟩
  rw [← hbody]
  exact Json.glyphsOf?_of_ascii (by decide) (by decide)

end Desinence
