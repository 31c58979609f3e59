/-
What the message of a format error tells.

The errors of parsing have two forms. One gives a line and its number with a reason that is
fixed words; the other only names a stage that is still open at the end, and that in its
reason (`FormatError.Form`). So a message is the quoted line behind words in which there is
nothing to quote, or it is the open stage's name between two fixed texts.

Hence the line stands in the message as it is exactly if quoting leaves it whole, and a line
that has to be escaped somewhere in between is not found there.

All the same the message identifies the error. The number ends at the first colon and the
reason at the next one, for neither has a colon in it, and the line can be read back from
what quotes it. The name of an open stage may be any text, but it stands between two fixed
ones. The two forms differ in their first letter.
-/
import Desinence.Proofs.Assembly.Outcome
import Desinence.Proofs.Text.Verbatim

set_option autoImplicit false

namespace Desinence

/-! ## The two forms -/

/-- The reasons for which a line is at fault. -/
def FormatReason.IsOfLine : FormatReason → Bool
  | .unterminatedStage _ => false
  | _ => true

/-- **The form of an error**: a line is at fault, or the last stage is open. -/
inductive FormatError.Form : FormatError → Prop
  | ofLine (reason : FormatReason) (line : Text) (number : Nat) (h : reason.IsOfLine = true) :
    Form ⟨reason, some line, some number⟩
  | ofEnd (name : Text) : Form ⟨.unterminatedStage name, none, none⟩

/-- A step that fails has one of the three reasons for which a line is at fault. -/
theorem Assembly.isOfLine_of_step {a : Assembly} {line text : Text} {reason : FormatReason}
    (h : a.step line = .error (.format reason text)) : reason.IsOfLine = true := by
  obtain ⟨howner, hheader, hrule⟩ := reason_of_step_eq_error h
  cases a with
  | between =>
    by_cases hl : IsRuleLine line
    · rw [howner.2 ⟨rfl, hl⟩]
      rfl
    · rw [hheader.2 ⟨rfl, hl⟩]
      rfl
  | inside hd rules =>
    rw [hrule.2 ⟨hd, rules, rfl⟩]
    rfl

/-- **Every error of parsing** has one of the two forms. -/
theorem Table.form_of_parse {source : Text} {e : FormatError}
    (h : parse source = .error (.format e)) : e.Form := by
  obtain ⟨front, line, -, a, text, -, -, hstep, hline, hnumber⟩ | ⟨hd, rules, -, rfl⟩ :=
    placedIn_of_parse h
  · obtain ⟨reason, line', number'⟩ := e
    obtain rfl : line' = some line := hline
    obtain rfl : number' = some (front.length + 1) := hnumber
    exact .ofLine reason line _ (Assembly.isOfLine_of_step hstep)
  · exact .ofEnd hd.name

/-! ## The words of a message -/

namespace FormatError

/-- What stands in front of the quoted line. -/
def lineFront (reason : FormatReason) (number : Nat) : Text :=
  "line ".toList ++ Text.ofNat number ++ ": ".toList ++ reason.text ++ ": ".toList

theorem message_ofLine (reason : FormatReason) (line : Text) (number : Nat) :
    message ⟨reason, some line, some number⟩ = lineFront reason number ++ line.quoted := by
  have hnumber : Text.ofInt (Int.ofNat number) = Text.ofNat number := rfl
  unfold message lineFront complaint
  dsimp only [Option.map_some]
  rw [hnumber]
  simp only [List.append_assoc]

/-- What stands behind the name of an open stage. -/
def nameBack : Text :=
  "' (missing '".toList ++ terminator ++ "')".toList

theorem message_ofEnd (name : Text) :
    message ⟨.unterminatedStage name, none, none⟩ =
      "unterminated stage '".toList ++ name ++ nameBack := by
  unfold message complaint nameBack
  dsimp only [FormatReason.text, Option.map_none]
  simp only [List.nil_append, List.append_nil, List.append_assoc]
  rfl

end FormatError

/-- A printable character of ASCII that is neither a backslash nor a quote mark. -/
def isSimple (c : Char) : Bool :=
  (0x20 ≤ c.toNat && c.toNat ≤ 0x7E) && (c != '\\' && c != '\'' && c != '"')

/-- Simple characters have nothing to escape. -/
theorem Text.smooth_of_isSimple {t : Text} (h : t.all isSimple = true) : t.Smooth := by
  intro c hc
  have hsimple := List.all_eq_true.1 h c hc
  simp only [isSimple, Bool.and_eq_true, decide_eq_true_eq, bne_iff_ne] at hsimple
  obtain ⟨⟨hlow, hhigh⟩, ⟨hslash, hsingle⟩, hdouble⟩ := hsimple
  exact ⟨isPrintable_of_ascii hlow hhigh, hslash, hsingle, hdouble⟩

/-- Such are the digits of a number. -/
theorem Text.smooth_ofNat (n : Nat) : (Text.ofNat n).Smooth := by
  refine smooth_of_isSimple (List.all_eq_true.2 fun c hc => ?_)
  obtain ⟨hlow, hhigh⟩ := isDigit_iff.1 (Text.isDigit_of_mem_ofNat hc)
  have hdigits : ∀ m ≤ 57, 48 ≤ m → isSimple (Char.ofNat m) = true := by
    decide +kernel
  have hc := hdigits c.toNat hhigh hlow
  rwa [Char.ofNat_toNat] at hc

/-- Such are the words of a reason. -/
theorem FormatReason.smooth_text {reason : FormatReason} (h : reason.IsOfLine = true) :
    reason.text.Smooth := by
  cases reason with
  | unterminatedStage name => exact absurd h Bool.false_ne_true
  | _ => exact Text.smooth_of_isSimple (by decide +kernel)

theorem FormatError.smooth_lineFront {reason : FormatReason} (h : reason.IsOfLine = true)
    (number : Nat) : (lineFront reason number).Smooth := by
  have hword : Text.Smooth "line ".toList := Text.smooth_of_isSimple (by decide +kernel)
  have hcolon : Text.Smooth ": ".toList := Text.smooth_of_isSimple (by decide +kernel)
  exact (((hword.append (Text.smooth_ofNat number)).append hcolon).append
    (reason.smooth_text h)).append hcolon

/-! ## The line in the message -/

/-- **The line in a message.** The message of an error of parsing that has a line ends with
the line in quotes, and the line occurs in it as it stands exactly if quoting leaves it
whole. Lines of printable characters without a backslash and with one kind of quote marks at
most are of that sort. -/
theorem Table.line_in_message {source line : Text} {e : FormatError}
    (h : parse source = .error (.format e)) (hline : e.line = some line) :
    line.quoted <:+ e.message ∧ (line <:+: e.message ↔ line.StaysWhole) ∧
      ((∀ c ∈ line, isPrintable c = true) → '\\' ∉ line → ¬('\'' ∈ line ∧ '"' ∈ line) →
        line <:+: e.message) := by
  cases form_of_parse h with
  | ofLine reason line' number hreason =>
    obtain rfl : line' = line := Option.some.inj hline
    rw [FormatError.message_ofLine]
    have hwhole := Text.isInfix_append_quoted_iff (t := line')
      (FormatError.smooth_lineFront hreason number)
    exact ⟨List.suffix_append _ _, hwhole, fun hprintable hslash hmarks =>
      hwhole.2 (Text.staysWhole_of_not_mem hprintable hslash hmarks)⟩
  | ofEnd name => exact absurd hline (by simp)

/-- A line with escapes at its two ends, and one with a rule that stands outside. -/
theorem Table.line_in_message_two_lines :
    let hard : Text := "\\'\x7b\"a\"\x7d\\".toList
    let plain : Text := "  \x7b\"água\",2\x7d,".toList
    let e : FormatError := ⟨.badHeader, some hard, some 1⟩
    let e' : FormatError := ⟨.ownerlessRule, some plain, some 2⟩
    parse hard = .error (.format e) ∧ hard.StaysWhole ∧ hard <:+: e.message ∧
      parse ('\n' :: plain) = .error (.format e') ∧ plain <:+: e'.message := by
  intro hard plain e e'
  have hparse : parse hard = .error (.format e) := by rfl
  have hparse' : parse ('\n' :: plain) = .error (.format e') := by rfl
  have hmark : hard.quoteMark = '\'' := by decide +kernel
  have hhard : hard.StaysWhole := by
    refine ⟨List.all_eq_true.1 (by decide +kernel), 1, 1, "'\x7b\"a\"\x7d".toList, rfl, ?_⟩
    rw [hmark]
    simp
  obtain ⟨-, hwhole, -⟩ := line_in_message hparse rfl
  obtain ⟨-, -, hplain⟩ := line_in_message hparse' rfl
  exact ⟨hparse, hhard, hwhole.2 hhard, hparse', hplain (List.all_eq_true.1 (by decide +kernel))
    (by decide +kernel) (by decide +kernel)⟩

/-- **Not every line stands in its message**: an apostrophe next to double quotes is escaped,
and a backslash comes to stand inside the line. -/
theorem Table.not_every_line_in_message :
    let line : Text := "\x7b\"d'água\",2\x7d,".toList
    let e : FormatError := ⟨.ownerlessRule, some line, some 1⟩
    parse line = .error (.format e) ∧
      e.message = "line 1: rule without an owning stage: '\x7b\"d\\'água\",2\x7d,'".toList ∧
      ¬line <:+: e.message ∧
      ¬∀ source e line, parse source = .error (.format e) → e.line = some line →
        line <:+: e.message := by
  intro line e
  have hparse : parse line = .error (.format e) := by rfl
  have hmessage :
      e.message = "line 1: rule without an owning stage: '\x7b\"d\\'água\",2\x7d,'".toList := by
    decide +kernel
  have hline : ¬line <:+: e.message := by
    rw [hmessage]
    decide +kernel
  exact ⟨hparse, hmessage, hline, fun h => hline (h line e line hparse rfl)⟩

/-! ## Telling errors apart -/

/-- What stands up to the first of some character is told by the text. -/
theorem Text.cut_inj {c : Char} {s t u v : Text} (hs : c ∉ s) (ht : c ∉ t)
    (h : s ++ c :: u = t ++ c :: v) : s = t ∧ u = v := by
  have hle := length_le_of_not_mem_left hs h
  have hge := length_le_of_not_mem_left ht h.symm
  obtain ⟨hst, hrest⟩ := List.append_inj h (Nat.le_antisymm hle hge)
  exact ⟨hst, (List.cons.inj hrest).2⟩

theorem Text.colon_not_mem_ofNat (n : Nat) : ':' ∉ Text.ofNat n :=
  fun h => absurd (isDigit_of_mem_ofNat h) (by decide)

/-- Numbers that are written alike are the same. -/
theorem Text.ofNat_inj {m n : Nat} (h : ofNat m = ofNat n) : m = n := by
  rw [← decimalValue_ofNat m, h, decimalValue_ofNat]

theorem FormatReason.colon_not_mem_text {reason : FormatReason} (h : reason.IsOfLine = true) :
    ':' ∉ reason.text := by
  cases reason with
  | unterminatedStage name => exact absurd h Bool.false_ne_true
  | _ => decide +kernel

/-- The reasons of lines are told apart by their words. -/
theorem FormatReason.eq_of_text_eq {reason reason' : FormatReason} (h : reason.IsOfLine = true)
    (h' : reason'.IsOfLine = true) (htext : reason.text = reason'.text) : reason = reason' := by
  cases reason <;> cases reason' <;> first | rfl | contradiction

namespace FormatError

/-- The two colons in front of the quoted line. -/
theorem lineFront_append (reason : FormatReason) (number : Nat) (t : Text) :
    lineFront reason number ++ t =
      ['l', 'i', 'n', 'e', ' '] ++
        (Text.ofNat number ++ ':' :: ' ' :: (reason.text ++ ':' :: ' ' :: t)) := by
  change ['l', 'i', 'n', 'e', ' '] ++ Text.ofNat number ++ [':', ' '] ++ reason.text ++
    [':', ' '] ++ t = _
  simp only [List.append_assoc, List.cons_append, List.nil_append]

/-- An error of a line is told by its message. -/
theorem eq_of_message_ofLine {reason reason' : FormatReason} {line line' : Text}
    {number number' : Nat} (h : reason.IsOfLine = true) (h' : reason'.IsOfLine = true)
    (hmessage : message ⟨reason, some line, some number⟩ =
      message ⟨reason', some line', some number'⟩) :
    reason = reason' ∧ line = line' ∧ number = number' := by
  rw [message_ofLine, message_ofLine, lineFront_append, lineFront_append] at hmessage
  obtain ⟨hdigits, hreason⟩ := Text.cut_inj (Text.colon_not_mem_ofNat number)
    (Text.colon_not_mem_ofNat number') (List.append_cancel_left hmessage)
  obtain ⟨htext, hquoted⟩ := Text.cut_inj (reason.colon_not_mem_text h)
    (reason'.colon_not_mem_text h') (List.cons.inj hreason).2
  exact ⟨FormatReason.eq_of_text_eq h h' htext, Text.quoted_inj (List.cons.inj hquoted).2,
    Text.ofNat_inj hdigits⟩

/-- An error at the end is told by its message. -/
theorem eq_of_message_ofEnd {name name' : Text}
    (hmessage : message ⟨.unterminatedStage name, none, none⟩ =
      message ⟨.unterminatedStage name', none, none⟩) : name = name' := by
  rw [message_ofEnd, message_ofEnd, List.append_assoc, List.append_assoc] at hmessage
  exact List.append_cancel_right (List.append_cancel_left hmessage)

/-- No message of one form is one of the other. -/
theorem message_ofLine_ne_ofEnd (reason : FormatReason) (line : Text) (number : Nat)
    (name : Text) : message ⟨reason, some line, some number⟩ ≠
      message ⟨.unterminatedStage name, none, none⟩ := by
  intro h
  have hopen : "unterminated stage '".toList = 'u' :: "nterminated stage '".toList := rfl
  rw [message_ofLine, lineFront_append, message_ofEnd, hopen] at h
  exact absurd (List.cons.inj h).1 (by decide)

/-- **Errors of the two forms** are told apart by their messages. -/
theorem Form.eq_of_message_eq {e e' : FormatError} (h : e.Form) (h' : e'.Form)
    (hmessage : e.message = e'.message) : e = e' := by
  cases h with
  | ofLine reason line number hreason =>
    cases h' with
    | ofLine reason' line' number' hreason' =>
      obtain ⟨rfl, rfl, rfl⟩ := eq_of_message_ofLine hreason hreason' hmessage
      rfl
    | ofEnd name => exact absurd hmessage (message_ofLine_ne_ofEnd _ _ _ _)
  | ofEnd name =>
    cases h' with
    | ofLine reason line number => exact absurd hmessage.symm (message_ofLine_ne_ofEnd _ _ _ _)
    | ofEnd name' => rw [eq_of_message_ofEnd hmessage]

end FormatError

/-- **The message identifies the error.** An error of parsing is either about a line, and
then its message has the number of the line, the reason and the quoted line, or it is about
a stage that is left open, and has its name. An error of any other source with the same
message is the same: in reason, line and number. -/
theorem Table.message_identifies_error {source : Text} {e : FormatError}
    (h : parse source = .error (.format e)) :
    ((∃ reason line number, e = ⟨reason, some line, some number⟩ ∧
        e.message = "line ".toList ++ Text.ofNat number ++ ": ".toList ++ reason.text ++
          ": ".toList ++ line.quoted) ∨
      ∃ name, e = ⟨.unterminatedStage name, none, none⟩ ∧
        e.message = "unterminated stage '".toList ++ name ++
          ("' (missing '".toList ++ terminator ++ "')".toList)) ∧
    ∀ other e', parse other = .error (.format e') → e.message = e'.message →
      e.reason = e'.reason ∧ e.line = e'.line ∧ e.number = e'.number := by
  refine ⟨?_, fun other e' h' hmessage => ?_⟩
  · cases form_of_parse h with
    | ofLine reason line number =>
      exact .inl ⟨reason, line, number, rfl, FormatError.message_ofLine reason line number⟩
    | ofEnd name => exact .inr ⟨name, rfl, FormatError.message_ofEnd name⟩
  · rw [(form_of_parse h).eq_of_message_eq (form_of_parse h') hmessage]
    exact ⟨rfl, rfl, rfl⟩

/-- A line that ends with a tab, one with a backslash and a letter in its place, and the
first one with more of the source behind it. -/
theorem Table.message_identifies_error_tab :
    let tab : Text := "\x7b\"d'\t".toList
    let letters : Text := "\x7b\"d'\\t".toList
    let e : FormatError := ⟨.badHeader, some tab, some 1⟩
    let e' : FormatError := ⟨.badHeader, some letters, some 1⟩
    parse tab = .error (.format e) ∧ parse letters = .error (.format e') ∧
      e.message ≠ e'.message ∧
      ∃ f, parse (tab ++ "\nrest".toList) = .error (.format f) ∧ f.message = e.message ∧
        f.line = some tab := by
  intro tab letters e e'
  have htab : parse tab = .error (.format e) := by rfl
  have hletters : parse letters = .error (.format e') := by rfl
  have hmore : parse (tab ++ "\nrest".toList) = .error (.format e) := by rfl
  obtain ⟨-, hsame⟩ := message_identifies_error htab
  refine ⟨htab, hletters, fun h => ?_, e, hmore, rfl, (hsame _ _ hmore rfl).2.1.symm⟩
  obtain ⟨-, hline, -⟩ := hsame _ _ hletters h
  exact absurd hline (by decide)

end Desinence
