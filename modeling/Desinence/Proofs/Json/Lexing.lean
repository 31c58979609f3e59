/-
The tokens of a text, and its lexemes.

Whatever stands in front of a text that begins with no blank is read as one token, and that
is the token of a lexeme unless it is broken; so the tokens of a text without a broken one
are those of its lexemes (`lexes_tokens`). The other way round a lexeme is read whatever
follows it, except that a numeral could go on. It does not in front of a blank or of a mark
(`tokens_of_lexes`), and in JSON nothing else follows a numeral.
-/
import Desinence.Proofs.Json.Content
import Desinence.Proofs.Json.Numeral

set_option autoImplicit false

namespace Desinence

namespace Json

/-! ## Blanks -/

theorem isSpace_iff {x : Glyph} : isSpace x = true ↔ x ∈ Text.glyphs [' ', '\t', '\n', '\r'] := by
  simp only [isSpace, Bool.or_eq_true, beq_iff_eq, Text.glyphs, List.map_cons, List.map_nil,
    List.mem_cons, List.not_mem_nil, or_false, or_assoc]

/-- The glyphs of a token that has been read are skipped. -/
theorem tokensFrom_eq_drop (skip : Nat) (g : Glyphs) :
    tokensFrom skip g = tokensFrom 0 (g.drop skip) := by
  induction g generalizing skip with
  | nil => cases skip <;> rfl
  | cons x r ih =>
    cases skip with
    | zero => rfl
    | succ skip => rw [tokensFrom, ih, List.drop_succ_cons]

/-- Blanks come to nothing. -/
theorem tokens_spaces_append {w : Glyphs} (hw : Spaces w) (g : Glyphs) :
    tokens (w ++ g) = tokens g := by
  induction w with
  | nil => rfl
  | cons x w ih =>
    have hx : isSpace x = true := isSpace_iff.2 (hw x List.mem_cons_self)
    have hrest : tokens (w ++ g) = tokens g := ih fun y hy => hw y (List.mem_cons_of_mem _ hy)
    rw [tokens, List.cons_append, tokensFrom, if_pos hx]
    exact hrest

/-- **One token in front** of a text. -/
theorem tokens_append {x : Glyph} {l r : Glyphs} {token : Token} (hspace : isSpace x = false)
    (hread : readToken x (l ++ r) = (token, l.length + 1)) :
    tokens (x :: l ++ r) = token :: tokens r := by
  rw [tokens, List.cons_append, tokensFrom, hspace, if_neg Bool.false_ne_true, hread]
  dsimp only
  rw [Nat.add_sub_cancel, tokensFrom_eq_drop, List.drop_left, tokens]

/-! ## Characters of numerals -/

/-- A character with which numerals are written. -/
def IsNumeralChar (c : Char) : Prop :=
  isDigit c = true ∨ c ∈ ['-', '+', '.', 'e', 'E']

instance (c : Char) : Decidable (IsNumeralChar c) :=
  inferInstanceAs (Decidable (_ ∨ _))

theorem numeralRun_cons {c : Char} (hc : IsNumeralChar c) (r : Glyphs) :
    numeralRun (.char c :: r) = c :: numeralRun r := by
  have h : (isDigit c || c == '-' || c == '+' || c == '.' || c == 'e' || c == 'E') = true := by
    simpa [IsNumeralChar, or_assoc] using hc
  rw [numeralRun, if_pos h]

theorem numeralRun_cons_of_not {c : Char} (hc : ¬IsNumeralChar c) (r : Glyphs) :
    numeralRun (.char c :: r) = [] := by
  have h : ¬(isDigit c || c == '-' || c == '+' || c == '.' || c == 'e' || c == 'E') = true := by
    simpa [IsNumeralChar, or_assoc] using hc
  rw [numeralRun, if_neg h]

theorem numeralRun_append {l : Text} {r : Glyphs} (hl : ∀ c ∈ l, IsNumeralChar c)
    (hr : numeralRun r = []) : numeralRun (l.glyphs ++ r) = l := by
  induction l with
  | nil => exact hr
  | cons c l ih =>
    have hrest := ih fun d hd => hl d (List.mem_cons_of_mem _ hd)
    rw [Text.glyphs, List.map_cons, List.cons_append, numeralRun_cons (hl c List.mem_cons_self)]
    exact congrArg (c :: ·) hrest

theorem exists_eq_numeralRun_append (g : Glyphs) : ∃ r, g = (numeralRun g).glyphs ++ r := by
  induction g with
  | nil => exact ⟨[], rfl⟩
  | cons x g ih =>
    obtain ⟨r, hr⟩ := ih
    rw [numeralRun.eq_def]
    split
    next c r' heq =>
      obtain ⟨rfl, rfl⟩ := List.cons.inj heq
      split
      · exact ⟨r, congrArg (.char c :: ·) hr⟩
      · exact ⟨_, rfl⟩
    · exact ⟨_, rfl⟩

theorem forall_isNumeralChar_cons {c : Char} {t : Text} (hc : c ∈ ['-', '+', '.', 'e', 'E'])
    (ht : ∀ d ∈ t, IsNumeralChar d) : ∀ d ∈ c :: t, IsNumeralChar d :=
  List.forall_mem_cons.2 ⟨.inr hc, ht⟩

theorem isNumeralChar_of_isNumeral {t : Text} (h : t.IsNumeral) : ∀ c ∈ t, IsNumeralChar c :=
  fun c hc => .inl (h.2 c hc)

theorem Sign.isNumeralChar {sign : Text} {negative : Bool} (h : Sign sign negative) :
    ∀ c ∈ sign, IsNumeralChar c := by
  cases h with
  | plus => simp
  | minus => exact forall_isNumeralChar_cons (by simp) (by simp)

theorem IsWhole.isNumeralChar {t : Text} (h : IsWhole t) : ∀ c ∈ t, IsNumeralChar c :=
  fun c hc => .inl (h.forall_isDigit c hc)

theorem Fraction.isNumeralChar {f fs : Text} (h : Fraction f fs) : ∀ c ∈ f, IsNumeralChar c := by
  cases h with
  | none => simp
  | digits ht => exact forall_isNumeralChar_cons (by simp) (isNumeralChar_of_isNumeral ht)

theorem Exponent.isNumeralChar {x : Text} {e : Int} (h : Exponent x e) :
    ∀ c ∈ x, IsNumeralChar c := by
  have hletter : ∀ {e : Char} {t : Text}, e = 'e' ∨ e = 'E' → (∀ d ∈ t, IsNumeralChar d) →
      ∀ d ∈ e :: t, IsNumeralChar d := by
    rintro e t (rfl | rfl) ht <;> exact forall_isNumeralChar_cons (by simp) ht
  cases h with
  | none => simp
  | plain he ht => exact hletter he (isNumeralChar_of_isNumeral ht)
  | plus he ht | minus he ht =>
    exact hletter he (forall_isNumeralChar_cons (by simp) (isNumeralChar_of_isNumeral ht))

/-- A numeral is written with such characters. -/
theorem Numeral.isNumeralChar {l : Text} {token : Token} (h : Numeral l token) :
    ∀ c ∈ l, IsNumeralChar c := by
  cases h with
  | integer hs hw => exact List.forall_mem_append.2 ⟨hs.isNumeralChar, hw.isNumeralChar⟩
  | number hs hw hf hx =>
    exact List.forall_mem_append.2 ⟨hs.isNumeralChar, List.forall_mem_append.2
      ⟨hw.isNumeralChar, List.forall_mem_append.2 ⟨hf.isNumeralChar, hx.isNumeralChar⟩⟩⟩

theorem IsNumeralChar.isSpace_eq_false {c : Char} (h : IsNumeralChar c) :
    isSpace (.char c) = false := by
  rw [Bool.eq_false_iff, ne_eq, isSpace_iff]
  intro hspace
  simp only [Text.glyphs, List.map_cons, List.map_nil, List.mem_cons, List.not_mem_nil, or_false,
    Glyph.char.injEq] at hspace
  obtain rfl | rfl | rfl | rfl := hspace <;> exact absurd h (by decide)

/-- No mark is such a character. -/
theorem IsNumeralChar.not_mem_marks {c : Char} (h : IsNumeralChar c) (token : Token) :
    (c, token) ∉ marks := by
  intro hmark
  simp only [marks, List.mem_cons, Prod.mk.injEq, List.not_mem_nil, or_false] at hmark
  obtain ⟨rfl, -⟩ | ⟨rfl, -⟩ | ⟨rfl, -⟩ | ⟨rfl, -⟩ | ⟨rfl, -⟩ | ⟨rfl, -⟩ := hmark <;>
    exact absurd h (by decide)

/-- **A numeral begins** with a digit, or with a minus sign and a digit. -/
theorem Numeral.cases_front {l : Text} {token : Token} (h : Numeral l token) :
    (∃ c r, l = c :: r ∧ isDigit c = true) ∨ ∃ c r, l = '-' :: c :: r ∧ isDigit c = true := by
  have hfront : ∀ {sign whole : Text} {negative : Bool} (r : Text), Sign sign negative →
      IsWhole whole → (∃ c r', sign ++ (whole ++ r) = c :: r' ∧ isDigit c = true) ∨
        ∃ c r', sign ++ (whole ++ r) = '-' :: c :: r' ∧ isDigit c = true := by
    intro sign whole negative r hsign hwhole
    obtain ⟨c, r', rfl, hc⟩ := hwhole.exists_cons
    cases hsign with
    | plus => exact .inl ⟨c, r' ++ r, rfl, hc⟩
    | minus => exact .inr ⟨c, r' ++ r, rfl, hc⟩
  cases h with
  | @integer sign whole _ hsign hwhole =>
    have h := hfront [] hsign hwhole
    rwa [List.append_nil] at h
  | number hsign hwhole => exact hfront _ hsign hwhole

theorem Numeral.ne_nil {l : Text} {token : Token} (h : Numeral l token) : l ≠ [] := by
  obtain ⟨c, r, rfl, -⟩ | ⟨c, r, rfl, -⟩ := h.cases_front <;> exact List.cons_ne_nil _ _

/-! ## One lexeme -/

/-- The words that are read are those of the grammar. -/
theorem words_eq : words = vocabulary :=
  rfl

/-- Words begin with two characters that are no digits. -/
theorem exists_of_mem_vocabulary {w : Text × Token} (h : w ∈ vocabulary) :
    ∃ c d t, w.1 = c :: d :: t ∧ isDigit c = false ∧ isDigit d = false := by
  simp only [vocabulary, List.mem_cons, List.not_mem_nil, or_false] at h
  obtain rfl | rfl | rfl | rfl | rfl | rfl := h <;>
    exact ⟨_, _, _, rfl, by decide, by decide⟩

/-- No word stands where a numeral does. -/
theorem find?_words_eq_none {l : Text} {token : Token} (h : Numeral l token) (r : Glyphs) :
    words.find? (fun w => w.1.glyphs.isPrefixOf (l.glyphs ++ r)) = none := by
  rw [List.find?_eq_none, words_eq]
  intro w hw hprefix
  obtain ⟨c, d, t, hword, hc, hd⟩ := exists_of_mem_vocabulary hw
  rw [hword, List.isPrefixOf_iff_prefix] at hprefix
  obtain ⟨x, l, rfl, hx⟩ | ⟨x, l, rfl, hx⟩ := h.cases_front
  · obtain ⟨hchar, -⟩ := List.cons_prefix_cons.1 hprefix
    rw [Glyph.char.inj hchar, hx] at hc
    exact Bool.noConfusion hc
  · obtain ⟨hchar, -⟩ := List.cons_prefix_cons.1 (List.cons_prefix_cons.1 hprefix).2
    rw [Glyph.char.inj hchar, hx] at hd
    exact Bool.noConfusion hd

theorem length_glyphs (t : Text) : t.glyphs.length = t.length :=
  List.length_map _

/-- The marks that are read are those of the grammar. -/
theorem punctuation?_eq_some_iff {x : Glyph} {token : Token} :
    punctuation? x = some token ↔ ∃ c, x = .char c ∧ (c, token) ∈ marks := by
  constructor
  · intro h
    unfold punctuation? at h
    split at h
    case h_7 => exact absurd h (by simp)
    all_goals
      obtain rfl := Option.some.inj h
      exact ⟨_, rfl, by simp [marks]⟩
  · rintro ⟨c, rfl, h⟩
    simp only [marks, List.mem_cons, Prod.mk.injEq, List.not_mem_nil, or_false] at h
    obtain ⟨rfl, rfl⟩ | ⟨rfl, rfl⟩ | ⟨rfl, rfl⟩ | ⟨rfl, rfl⟩ | ⟨rfl, rfl⟩ | ⟨rfl, rfl⟩ := h <;> rfl

/-- **What is read as a word or number** is a lexeme. -/
theorem lexeme_of_readPlain {g : Glyphs} {token : Token} {n : Nat}
    (h : readPlain g = some (token, n)) : ∃ l r, g = l ++ r ∧ n = l.length ∧ Lexeme l token := by
  rw [readPlain] at h
  split at h
  next w hfind =>
    obtain ⟨rfl, rfl⟩ := Prod.mk.inj (Option.some.inj h)
    have hmem : w ∈ words := List.mem_of_find?_eq_some hfind
    rw [words_eq] at hmem
    have hprefix : w.1.glyphs.isPrefixOf g = true :=
      List.find?_some (p := fun w : Text × Token => w.1.glyphs.isPrefixOf g) hfind
    obtain ⟨r, hr⟩ := List.isPrefixOf_iff_prefix.1 hprefix
    exact ⟨w.1.glyphs, r, hr.symm, (length_glyphs _).symm, .word hmem⟩
  next =>
    obtain ⟨l, u, hl, rfl, hnumeral⟩ := numeral_of_readNumber h
    obtain ⟨r, hr⟩ := exists_eq_numeralRun_append g
    refine ⟨l.glyphs, u.glyphs ++ r, ?_, (length_glyphs l).symm, .numeral hnumeral⟩
    rw [hr, hl, Text.glyphs, List.map_append, List.append_assoc]
    rfl

/-- **What is read as a token** is a lexeme, unless it is broken. -/
theorem lexeme_of_readToken {x : Glyph} {r : Glyphs} {token : Token} {n : Nat}
    (h : readToken x r = (token, n)) (hbroken : token ≠ .broken) :
    ∃ l r', x :: r = l ++ r' ∧ n = l.length ∧ Lexeme l token := by
  rw [readToken] at h
  split at h
  next mark hmark =>
    obtain ⟨rfl, rfl⟩ := Prod.mk.inj h
    obtain ⟨c, rfl, hmem⟩ := punctuation?_eq_some_iff.1 hmark
    exact ⟨[.char c], r, rfl, rfl, .mark hmem⟩
  next =>
    split at h
    next hquote =>
      subst hquote
      split at h
      next s k hread =>
        obtain ⟨rfl, rfl⟩ := Prod.mk.inj h
        obtain ⟨b, r', rfl, rfl, hb⟩ := content_of_readString hread
        exact ⟨.char '"' :: (b ++ [.char '"']), r', by simp, by simp, .string hb⟩
      next =>
        obtain ⟨rfl, -⟩ := Prod.mk.inj h
        exact absurd rfl hbroken
    next =>
      cases hplain : readPlain (x :: r) with
      | none =>
        rw [hplain] at h
        obtain ⟨rfl, -⟩ := Prod.mk.inj h
        exact absurd rfl hbroken
      | some p =>
        rw [hplain] at h
        obtain rfl : p = (token, n) := h
        exact lexeme_of_readPlain hplain

/-- The tokens that are numbers. -/
def Token.IsNumber : Token → Prop
  | .integer _ _ | .number _ => True
  | _ => False

theorem Numeral.isNumber {l : Text} {token : Token} (h : Numeral l token) : token.IsNumber := by
  cases h <;> trivial

/-- **A numeral is read** where it cannot go on. No word is a numeral, and the characters of
numerals end with this one, so all of it and nothing else is handed to the reader of numbers. -/
theorem readPlain_of_numeral {l : Text} {token : Token} (h : Numeral l token) {r : Glyphs}
    (hr : numeralRun r = []) : readPlain (l.glyphs ++ r) = some (token, l.length) := by
  rw [readPlain, find?_words_eq_none h r]
  dsimp only
  rw [numeralRun_append h.isNumeralChar hr, readNumber_of_numeral h]

theorem IsNumeralChar.punctuation?_eq_none {c : Char} (h : IsNumeralChar c) :
    punctuation? (.char c) = none := by
  rw [Option.eq_none_iff_forall_ne_some]
  intro token htoken
  obtain ⟨d, hd, hmem⟩ := punctuation?_eq_some_iff.1 htoken
  obtain rfl := Glyph.char.inj hd
  exact h.not_mem_marks token hmem

theorem IsNumeralChar.ne_quote {c : Char} (h : IsNumeralChar c) : Glyph.char c ≠ .char '"' := by
  intro hquote
  rw [Glyph.char.inj hquote] at h
  exact absurd h (by decide)

/-- **A lexeme is read** whatever follows, but for a numeral that could go on. -/
theorem readToken_of_lexeme {l : Glyphs} {token : Token} (h : Lexeme l token) {r : Glyphs}
    (hr : token.IsNumber → numeralRun r = []) :
    ∃ x l', l = x :: l' ∧ isSpace x = false ∧ readToken x (l' ++ r) = (token, l'.length + 1) := by
  cases h with
  | @mark c _ hmem =>
    have hspace : isSpace (.char c) = false := by
      simp only [marks, List.mem_cons, Prod.mk.injEq, List.not_mem_nil, or_false] at hmem
      obtain ⟨rfl, -⟩ | ⟨rfl, -⟩ | ⟨rfl, -⟩ | ⟨rfl, -⟩ | ⟨rfl, -⟩ | ⟨rfl, -⟩ := hmem <;> decide
    refine ⟨.char c, [], rfl, hspace, ?_⟩
    rw [readToken, punctuation?_eq_some_iff.2 ⟨c, rfl, hmem⟩]
    rfl
  | word hmem =>
    -- No two words begin with one character, so the first that fits is the word itself.
    simp only [vocabulary, List.mem_cons, Prod.mk.injEq, List.not_mem_nil, or_false] at hmem
    obtain ⟨rfl, rfl⟩ | ⟨rfl, rfl⟩ | ⟨rfl, rfl⟩ | ⟨rfl, rfl⟩ | ⟨rfl, rfl⟩ | ⟨rfl, rfl⟩ := hmem <;>
      exact ⟨_, _, rfl, by decide, rfl⟩
  | @numeral t _ hnumeral =>
    have hplain := readPlain_of_numeral hnumeral (hr hnumeral.isNumber)
    cases t with
    | nil => exact absurd rfl hnumeral.ne_nil
    | cons c u =>
      have hc : IsNumeralChar c := hnumeral.isNumeralChar c List.mem_cons_self
      have hread : readPlain (.char c :: (Text.glyphs u ++ r)) = some (token, u.length + 1) :=
        hplain
      refine ⟨.char c, Text.glyphs u, rfl, hc.isSpace_eq_false, ?_⟩
      rw [readToken, hc.punctuation?_eq_none]
      dsimp only
      rw [if_neg hc.ne_quote, hread, length_glyphs]
      rfl
  | @string g s hcontent =>
    refine ⟨.char '"', g ++ [.char '"'], rfl, by decide, ?_⟩
    have hquote : punctuation? (.char '"') = none := rfl
    have hread : readString (g ++ [.char '"'] ++ r) = some (s, g.length + 1) := by
      rw [List.append_assoc]
      exact readString_of_content hcontent r
    rw [readToken, hquote]
    dsimp only
    rw [if_pos rfl, hread]
    simp

/-! ## Whole texts -/

theorem Lexeme.ne_nil {l : Glyphs} {token : Token} (h : Lexeme l token) : l ≠ [] := by
  have hr : token.IsNumber → numeralRun [] = [] := fun _ => rfl
  obtain ⟨x, l', rfl, -⟩ := readToken_of_lexeme h hr
  exact List.cons_ne_nil x l'

/-- A lexeme with no blanks in front. -/
theorem Lexes.lexeme_append {l g : Glyphs} {token : Token} {ts : List Token}
    (hl : Lexeme l token) (hg : Lexes g ts) : Lexes (l ++ g) (token :: ts) :=
  .cons (w := []) (by simp [Spaces]) hl hg

/-- Blanks in front change nothing. -/
theorem Lexes.spaces_append {w g : Glyphs} {ts : List Token} (hw : Spaces w) (h : Lexes g ts) :
    Lexes (w ++ g) ts := by
  have hboth : ∀ {w' : Glyphs}, Spaces w' → Spaces (w ++ w') :=
    fun hw' => List.forall_mem_append.2 ⟨hw, hw'⟩
  cases h with
  | nil hw' => exact .nil (hboth hw')
  | cons hw' hl hg =>
    rw [← List.append_assoc]
    exact .cons (hboth hw') hl hg

/-- **The tokens of a text** are those of its lexemes, if none is broken. The induction is on
the length of the text, of which every lexeme takes some. -/
theorem lexes_tokens (g : Glyphs) (h : .broken ∉ tokens g) : Lexes g (tokens g) := by
  induction hn : g.length using Nat.strongRecOn generalizing g with
  | ind n ih =>
    subst hn
    cases g with
    | nil => exact .nil (by simp [Spaces])
    | cons x r =>
      cases hspace : isSpace x with
      | true =>
        have hx : Spaces [x] := List.forall_mem_singleton.2 (isSpace_iff.1 hspace)
        have htokens : tokens (x :: r) = tokens r := tokens_spaces_append hx r
        rw [htokens] at h ⊢
        exact (ih r.length (Nat.lt_succ_self _) r h rfl).spaces_append hx
      | false =>
        cases hread : readToken x r with
        | mk token n =>
        have htokens : tokens (x :: r) = token :: tokens (r.drop (n - 1)) := by
          rw [tokens, tokensFrom, hspace, if_neg Bool.false_ne_true, hread, tokens,
            ← tokensFrom_eq_drop]
        rw [htokens] at h ⊢
        rw [List.mem_cons, not_or] at h
        obtain ⟨l, r', htext, rfl, hl⟩ := lexeme_of_readToken hread (Ne.symm h.1)
        obtain ⟨y, l', rfl⟩ := List.exists_cons_of_ne_nil hl.ne_nil
        rw [List.cons_append] at htext
        obtain ⟨rfl, rfl⟩ := List.cons.inj htext
        rw [List.length_cons, Nat.add_sub_cancel, List.drop_left] at h ⊢
        have hlt : r'.length < (x :: (l' ++ r')).length := by
          rw [List.length_cons, List.length_append]
          omega
        exact .lexeme_append hl (ih r'.length hlt r' h.2 rfl)

/-- **Tokens in which numbers end**: behind each of them nothing follows, a comma, or the end
of what is open. -/
def NumbersEnd : List Token → Prop
  | [] => True
  | token :: ts =>
    (token.IsNumber → ∀ next ∈ ts.head?, next = .comma ∨ next = .closeArray ∨ next = .closeObject) ∧
      NumbersEnd ts

/-- The lexeme of a token that is neither a string nor a number. -/
theorem Lexeme.eq_mark {l : Glyphs} {token : Token} (h : Lexeme l token)
    (htoken : token = .comma ∨ token = .closeArray ∨ token = .closeObject) :
    ∃ c, l = [.char c] ∧ ¬IsNumeralChar c := by
  cases h with
  | @mark c _ hmem => exact ⟨c, rfl, fun hc => hc.not_mem_marks token hmem⟩
  | word hmem =>
    simp only [vocabulary, List.mem_cons, Prod.mk.injEq, List.not_mem_nil, or_false] at hmem
    obtain ⟨-, rfl⟩ | ⟨-, rfl⟩ | ⟨-, rfl⟩ | ⟨-, rfl⟩ | ⟨-, rfl⟩ | ⟨-, rfl⟩ := hmem <;>
      exact absurd htoken (by simp)
  | numeral hnumeral =>
    have hnumber := hnumeral.isNumber
    obtain rfl | rfl | rfl := htoken <;> exact hnumber.elim
  | string => exact absurd htoken (by simp)

/-- Neither a blank nor a mark prolongs a numeral. -/
theorem numeralRun_of_lexes {g : Glyphs} {ts : List Token} (h : Lexes g ts)
    (hts : ∀ next ∈ ts.head?, next = .comma ∨ next = .closeArray ∨ next = .closeObject) :
    numeralRun g = [] := by
  have hspace : ∀ {x : Glyph} (r : Glyphs), x ∈ Text.glyphs [' ', '\t', '\n', '\r'] →
      numeralRun (x :: r) = [] := by
    intro x r hx
    obtain ⟨c, hc, rfl⟩ := List.mem_map.1 hx
    refine numeralRun_cons_of_not (fun hnumeral => ?_) r
    have hfalse := hnumeral.isSpace_eq_false
    rw [isSpace_iff.2 hx] at hfalse
    exact Bool.noConfusion hfalse
  cases h with
  | nil hw =>
    cases g with
    | nil => rfl
    | cons x w => exact hspace w (hw x List.mem_cons_self)
  | @cons w l g token ts hw hl hg =>
    cases w with
    | cons x w => exact hspace _ (hw x List.mem_cons_self)
    | nil =>
      obtain ⟨c, rfl, hc⟩ := hl.eq_mark (hts token rfl)
      exact numeralRun_cons_of_not hc g

/-- **Lexemes are read** as their tokens, if every number ends. -/
theorem tokens_of_lexes {g : Glyphs} {ts : List Token} (h : Lexes g ts) (hts : NumbersEnd ts) :
    tokens g = ts := by
  induction h with
  | @nil w hw =>
    have htokens := tokens_spaces_append hw []
    rwa [List.append_nil] at htokens
  | @cons w l g token ts hw hl hg ih =>
    obtain ⟨hend, hts⟩ := hts
    obtain ⟨x, l', rfl, hspace, hread⟩ :=
      readToken_of_lexeme hl fun hnumber => numeralRun_of_lexes hg (hend hnumber)
    rw [tokens_spaces_append hw, tokens_append hspace hread, ih hts]

end Json

end Desinence
