/-
The grammar of a whole file: blocks of lines.

A block is a header line, rule lines that do not end their stage, and one that
does. The significant lines of a text that describes a table are a sequence of
blocks, one for each stage, and the table is what the blocks say, line by line.

`Block.Fits` is the grammar and `Block.Describes` the meaning, both stated on
the lines themselves. `Block.Reads` is what connects them with the assembly: a
run from between stages back there is a sequence of blocks that read as its
stages (`run_eq_some_iff_blocks`). The difference between reading and fitting is
the limit on numerals, so in a text without long numerals a text that is not a
sequence of blocks has an error of format.
-/
import Mathlib.Data.List.Forall2
import Desinence.Proofs.Assembly.Run
import Desinence.Proofs.Assembly.Step
import Desinence.Proofs.Text.Lines

set_option autoImplicit false

namespace Desinence

/-! ## Lists related element by element -/

/-- Where each element has a partner, there is a list of partners. -/
theorem exists_forall₂_of_forall_mem {α β : Type} {R : α → β → Prop} {xs : List α}
    (h : ∀ x ∈ xs, ∃ y, R x y) : ∃ ys, List.Forall₂ R xs ys := by
  induction xs with
  | nil => exact ⟨[], .nil⟩
  | cons x xs ih =>
    obtain ⟨y, hy⟩ := h x List.mem_cons_self
    obtain ⟨ys, hys⟩ := ih fun z hz => h z (List.mem_cons_of_mem _ hz)
    exact ⟨y :: ys, .cons hy hys⟩

/-- Each element of the first list has a partner in the second. -/
theorem exists_of_mem_of_forall₂ {α β : Type} {R : α → β → Prop} {xs : List α} {ys : List β}
    (h : List.Forall₂ R xs ys) {x : α} (hx : x ∈ xs) : ∃ y ∈ ys, R x y := by
  induction h with
  | nil => simp at hx
  | cons hab _ ih =>
    rcases List.mem_cons.1 hx with rfl | hx
    · exact ⟨_, List.mem_cons_self, hab⟩
    · obtain ⟨y, hy, hr⟩ := ih hx
      exact ⟨y, List.mem_cons_of_mem _ hy, hr⟩

/-! ## Blocks -/

/-- **The lines of one stage**: its header, the rule lines after which it goes
on, and its last line. -/
structure Block where
  headerLine : Text
  openLines : List Text
  lastLine : Text

namespace Block

/-- The rule lines of a block. -/
def ruleLines (b : Block) : List Text :=
  b.openLines ++ [b.lastLine]

/-- The lines of a block. -/
def lines (b : Block) : List Text :=
  b.headerLine :: b.ruleLines

/-- **The grammar of a block.** -/
structure Fits (b : Block) : Prop where
  header : ∃ p, HeaderRecord p b.headerLine
  opens : ∀ l ∈ b.openLines, endsStage l = false ∧ ∃ p, RuleRecord p l
  last : endsStage b.lastLine = true ∧ ∃ p, RuleRecord p (withoutTerminator b.lastLine)

/-- **The meaning of a block**: the stage has what the header line says, and a
rule for each rule line, in their order. -/
structure Describes (b : Block) (s : Stage) : Prop where
  header : ∃ p, HeaderRecord p b.headerLine ∧ s = p.value.stage s.rules
  rules : List.Forall₂ (fun line r => ∃ p, RuleRecord p (ruleText line) ∧ r = p.value)
    b.ruleLines s.rules

/-- A block that is read as a stage. -/
structure Reads (b : Block) (s : Stage) : Prop where
  opens : ∀ l ∈ b.openLines, endsStage l = false
  last : endsStage b.lastLine = true
  header : ∃ h, readHeader b.headerLine = .ok h ∧ s = h.stage s.rules
  rules : List.Forall₂ (fun line r => readRule (ruleText line) = .ok r) b.ruleLines s.rules

/-! ## Reading, grammar and meaning -/

/-- Every rule line of a block holds a rule record. -/
theorem Fits.exists_record {b : Block} (h : b.Fits) :
    ∀ l ∈ b.ruleLines, ∃ p, RuleRecord p (ruleText l) := by
  intro l hl
  rcases List.mem_append.1 hl with hl | hl
  · rw [ruleText_of_not_endsStage (h.opens l hl).1]
    exact (h.opens l hl).2
  · rw [List.mem_singleton.1 hl, ruleText_of_endsStage h.last.1]
    exact h.last.2

/-- What is read fits the grammar. -/
theorem Reads.fits {b : Block} {s : Stage} (h : b.Reads s) : b.Fits := by
  have hrec : ∀ l ∈ b.ruleLines, ∃ p, RuleRecord p (ruleText l) := by
    intro l hl
    obtain ⟨r, -, hr⟩ := exists_of_mem_of_forall₂ h.rules hl
    obtain ⟨p, hp, -, -⟩ := readRule_eq_ok_iff.1 hr
    exact ⟨p, hp⟩
  refine ⟨?_, fun l hl => ⟨h.opens l hl, ?_⟩, h.last, ?_⟩
  · obtain ⟨hd, hr, -⟩ := h.header
    obtain ⟨p, hp, -, -⟩ := readHeader_eq_ok_iff.1 hr
    exact ⟨p, hp⟩
  · have hl' := hrec l (List.mem_append_left _ hl)
    rwa [ruleText_of_not_endsStage (h.opens l hl)] at hl'
  · have hl' := hrec b.lastLine (List.mem_append_right _ (List.mem_singleton_self _))
    rwa [ruleText_of_endsStage h.last] at hl'

/-- What is read is what the block says. -/
theorem Reads.describes {b : Block} {s : Stage} (h : b.Reads s) : b.Describes s := by
  constructor
  · obtain ⟨hd, hr, hs⟩ := h.header
    obtain ⟨p, hp, -, rfl⟩ := readHeader_eq_ok_iff.1 hr
    exact ⟨p, hp, hs⟩
  · refine h.rules.imp fun l r hr => ?_
    obtain ⟨p, hp, -, rfl⟩ := readRule_eq_ok_iff.1 hr
    exact ⟨p, hp, rfl⟩

/-- **Without long numerals** a block that fits can be read. -/
theorem Fits.exists_reads {b : Block} (h : b.Fits) (hs : ∀ l ∈ b.lines, l.ShortNumerals) :
    ∃ s, b.Reads s := by
  obtain ⟨p, hp⟩ := h.header
  have hshort := hs b.headerLine List.mem_cons_self
  have hheader : readHeader b.headerLine = .ok p.value :=
    readHeader_eq_ok_iff.2 ⟨p, hp, hp.length_minWord_le hshort, rfl⟩
  have hrules : ∀ l ∈ b.ruleLines, ∃ r, readRule (ruleText l) = .ok r := by
    intro l hl
    obtain ⟨q, hq⟩ := h.exists_record l hl
    have hl' := (hs l (List.mem_cons_of_mem _ hl)).of_isInfix (ruleText_isPrefix l).isInfix
    exact ⟨q.value, readRule_eq_ok_iff.2 ⟨q, hq, hq.length_numeral_le hl', rfl⟩⟩
  obtain ⟨rules, hr⟩ := exists_forall₂_of_forall_mem hrules
  exact ⟨p.value.stage rules, fun l hl => (h.opens l hl).1, h.last.1, ⟨p.value, hheader, rfl⟩, hr⟩

/-- A block has a line for its header and one for each rule. -/
theorem Describes.length_lines {b : Block} {s : Stage} (h : b.Describes s) :
    b.lines.length = s.rules.length + 1 := by
  rw [lines, List.length_cons, h.rules.length_eq]

end Block

/-! ## Blocks and runs -/

namespace Assembly

/-- Rule lines, the last of them with the terminator, complete the stage. The
induction is on the open lines, for any rules already there. -/
theorem run_ruleLines {h : Header} {rs : List Rule} {opens : List Text} {last : Text}
    (rules : List Rule)
    (ho : ∀ l ∈ opens, endsStage l = false) (hl : endsStage last = true)
    (hr : List.Forall₂ (fun line r => readRule (ruleText line) = .ok r) (opens ++ [last]) rs) :
    (inside h rules).run (opens ++ [last]) = some (between, [h.stage (rules ++ rs)]) := by
  induction opens generalizing rules rs with
  | nil =>
    obtain ⟨r, rs', hread, hnil, rfl⟩ := List.forall₂_cons_left_iff.1 hr
    rw [List.forall₂_nil_left_iff] at hnil
    subst hnil
    have hs : (inside h rules).step last = .ok (between, some (h.stage (rules ++ [r]))) :=
      step_inside_eq_ok_iff.2 ⟨r, hread, .inr ⟨hl, rfl, rfl⟩⟩
    rw [List.nil_append, run_cons_of_ok hs]
    rfl
  | cons l opens ih =>
    obtain ⟨r, rs', hread, hrest, rfl⟩ := List.forall₂_cons_left_iff.1 hr
    have hs : (inside h rules).step l = .ok (inside h (rules ++ [r]), none) :=
      step_inside_eq_ok_iff.2 ⟨r, hread, .inl ⟨ho l List.mem_cons_self, rfl, rfl⟩⟩
    have hrun := ih (rules ++ [r]) (fun m hm => ho m (List.mem_cons_of_mem _ hm)) hrest
    rw [List.cons_append, run_cons_of_ok hs, hrun, List.append_assoc]
    rfl

/-- **A block is one stage** of a run. -/
theorem run_block {b : Block} {s : Stage} (h : b.Reads s) :
    between.run b.lines = some (between, [s]) := by
  obtain ⟨hd, hread, hs⟩ := h.header
  have hstep := step_between_eq_ok_iff.2 ⟨hd, hread, rfl, rfl⟩
  have hrun := run_ruleLines (h := hd) [] h.opens h.last h.rules
  rw [List.nil_append, ← hs] at hrun
  rw [Block.lines, run_cons_of_ok hstep, Block.ruleLines, hrun]
  rfl

/-- A run that leaves a stage has passed its last line. -/
theorem exists_ruleLines_of_run {h : Header} {rules : List Rule} {ls : List Text} {t : Table}
    (hr : (inside h rules).run ls = some (between, t)) :
    ∃ opens last rest rs u, ls = opens ++ last :: rest ∧
      (∀ l ∈ opens, endsStage l = false) ∧ endsStage last = true ∧
      List.Forall₂ (fun line r => readRule (ruleText line) = .ok r) (opens ++ [last]) rs ∧
      t = h.stage (rules ++ rs) :: u ∧ between.run rest = some (between, u) := by
  induction ls generalizing rules t with
  | nil => simp at hr
  | cons l ls ih =>
    obtain ⟨b, completed, u, hs, hrun, rfl⟩ := run_cons_eq_some_iff.1 hr
    obtain ⟨r, hread, ⟨he, rfl, rfl⟩ | ⟨he, rfl, rfl⟩⟩ := step_inside_eq_ok_iff.1 hs
    · -- The stage goes on, so the last line is further on.
      obtain ⟨opens, last, rest, rs, v, rfl, ho, hl, hrs, rfl, hrest⟩ := ih hrun
      refine ⟨l :: opens, last, rest, r :: rs, v, rfl, ?_, hl, .cons hread hrs, ?_, hrest⟩
      · intro m hm
        rcases List.mem_cons.1 hm with rfl | hm
        · exact he
        · exact ho m hm
      · rw [List.append_assoc]
        rfl
    · -- This is the last line.
      exact ⟨[], l, ls, [r], u, rfl, by simp, he, .cons hread .nil, rfl, hrun⟩

/-- **Runs are blocks**: a run from between stages back there, completing a
table, is over a sequence of blocks that read as its stages. -/
theorem run_eq_some_iff_blocks {ls : List Text} {t : Table} :
    between.run ls = some (between, t) ↔
      ∃ bs : List Block, List.Forall₂ Block.Reads bs t ∧ ls = bs.flatMap Block.lines := by
  constructor
  · intro h
    -- On the table, since each block completes just one stage of it.
    induction t generalizing ls with
    | nil =>
      cases ls with
      | nil => exact ⟨[], .nil, rfl⟩
      | cons l ls =>
        -- A first line would open a stage, and the run could not end between stages
        -- without completing it.
        obtain ⟨b, completed, u, hs, hrun, hu⟩ := run_cons_eq_some_iff.1 h
        obtain ⟨hd, -, rfl, rfl⟩ := step_between_eq_ok_iff.1 hs
        obtain ⟨opens, last, rest, rs, v, -, -, -, -, rfl, -⟩ := exists_ruleLines_of_run hrun
        simp at hu
    | cons s t ih =>
      cases ls with
      | nil => simp at h
      | cons l ls =>
        obtain ⟨b, completed, u, hs, hrun, hu⟩ := run_cons_eq_some_iff.1 h
        obtain ⟨hd, hread, rfl, rfl⟩ := step_between_eq_ok_iff.1 hs
        obtain ⟨opens, last, rest, rs, v, rfl, ho, hl, hrs, rfl, hrest⟩ :=
          exists_ruleLines_of_run hrun
        simp only [Option.toList_none, List.nil_append, List.cons.injEq] at hu
        obtain ⟨rfl, rfl⟩ := hu
        obtain ⟨bs, hbs, rfl⟩ := ih hrest
        refine ⟨⟨l, opens, last⟩ :: bs, .cons ⟨ho, hl, ⟨hd, hread, rfl⟩, hrs⟩ hbs, ?_⟩
        simp [Block.lines, Block.ruleLines]
  · rintro ⟨bs, hbs, rfl⟩
    induction hbs with
    | nil => rfl
    | cons hb _ ih => exact run_append (run_block hb) ih

end Assembly

/-! ## Texts -/

/-- **A sequence of blocks** that makes up the given lines. -/
def IsBlocks (bs : List Block) (ls : List Text) : Prop :=
  (∀ b ∈ bs, b.Fits) ∧ ls = bs.flatMap Block.lines

/-- A significant line of a text without long numerals has none. -/
theorem shortNumerals_of_mem_significant {source line : Text} (hs : source.ShortNumerals)
    (h : line ∈ significant source.lines) : line.ShortNumerals := by
  obtain ⟨l, hl, rfl, -⟩ := mem_significant h
  exact hs.of_isInfix ((Text.strip_isInfix l).trans (Text.isInfix_of_mem_lines hl))

/-- What a table's blocks amount to in lines: one for each stage and each
rule. -/
theorem length_flatMap_lines {bs : List Block} {t : Table}
    (h : List.Forall₂ Block.Describes bs t) :
    t.length + t.ruleCount = (bs.flatMap Block.lines).length := by
  induction h with
  | nil => rfl
  | @cons b s bs t hb _ ih =>
    have hcount : Table.ruleCount (s :: t) = s.rules.length + Table.ruleCount t := rfl
    rw [List.flatMap_cons, List.length_append, ← ih, hb.length_lines, List.length_cons, hcount]
    omega

namespace Table

/-- Blocks without long numerals are read as some table. -/
theorem exists_reads_of_isBlocks {source : Text} (hs : source.ShortNumerals) {bs : List Block}
    (hbs : IsBlocks bs (significant source.lines)) :
    ∃ t, List.Forall₂ Block.Reads bs t ∧ parse source = .ok t := by
  have hreads : ∀ b ∈ bs, ∃ s, b.Reads s := by
    intro b hb
    apply (hbs.1 b hb).exists_reads
    intro l hl
    apply shortNumerals_of_mem_significant hs
    rw [hbs.2]
    exact List.mem_flatMap.2 ⟨b, hb, hl⟩
  obtain ⟨t, ht⟩ := exists_forall₂_of_forall_mem hreads
  exact ⟨t, ht, parse_eq_ok_iff.2 (Assembly.run_eq_some_iff_blocks.2 ⟨bs, ht, hbs.2⟩)⟩

/-- The significant lines of a text that describes a table are blocks. -/
theorem exists_isBlocks_of_parse {source : Text} {t : Table} (h : parse source = .ok t) :
    ∃ bs, IsBlocks bs (significant source.lines) := by
  obtain ⟨bs, hbs, hls⟩ := Assembly.run_eq_some_iff_blocks.1 (parse_eq_ok_iff.1 h)
  refine ⟨bs, fun b hb => ?_, hls⟩
  obtain ⟨s, -, hb'⟩ := exists_of_mem_of_forall₂ hbs hb
  exact hb'.fits

/-- A text without long numerals that describes no table has an error of
format. -/
theorem exists_format_of_parse_ne_ok {source : Text} (hs : source.ShortNumerals)
    (h : ∀ t, parse source ≠ .ok t) : ∃ e, parse source = .error (.format e) := by
  cases hp : parse source with
  | ok t => exact absurd hp (h t)
  | error fault =>
    rcases parse_eq_error_iff.1 hp with
      ⟨hd, rules, t, -, rfl⟩ | ⟨front, line, back, b, t, f, hls, -, -, hstep, rfl⟩
    · exact ⟨_, rfl⟩
    · -- The line at fault is a stretch of the text, so its numerals are short too.
      have hmem : line ∈ source.lines := by
        rw [hls]
        exact List.mem_append_right _ List.mem_cons_self
      have hline : line.strip.ShortNumerals :=
        hs.of_isInfix ((Text.strip_isInfix line).trans (Text.isInfix_of_mem_lines hmem))
      obtain ⟨reason, text, rfl⟩ := Assembly.exists_format_of_step_eq_error hline hstep
      exact ⟨_, rfl⟩

/-- **The grammar of table files.** A text without long numerals describes a
table if and only if its significant lines are a sequence of blocks. Whichever
blocks these are, the table has what they say: a stage for each block in order,
a rule for each rule line in order, so that every line counts once. Any other
such text has an error of format. -/
theorem parse_iff_blocks {source : Text} (hs : source.ShortNumerals) :
    ((∃ t, parse source = .ok t) ↔ ∃ bs, IsBlocks bs (significant source.lines)) ∧
    (∀ t bs, parse source = .ok t → IsBlocks bs (significant source.lines) →
      List.Forall₂ Block.Describes bs t ∧
        t.length + t.ruleCount = (significant source.lines).length) ∧
    ((¬ ∃ bs, IsBlocks bs (significant source.lines)) →
      ∃ e, parse source = .error (.format e)) := by
  refine ⟨⟨fun ⟨t, ht⟩ => exists_isBlocks_of_parse ht, fun ⟨bs, hbs⟩ => ?_⟩, ?_, ?_⟩
  · obtain ⟨t, -, ht⟩ := exists_reads_of_isBlocks hs hbs
    exact ⟨t, ht⟩
  · intro t bs ht hbs
    obtain ⟨u, hu, hparse⟩ := exists_reads_of_isBlocks hs hbs
    rw [ht, Except.ok.injEq] at hparse
    subst hparse
    have hdesc : List.Forall₂ Block.Describes bs t := hu.imp fun _ _ h => h.describes
    exact ⟨hdesc, hbs.2 ▸ length_flatMap_lines hdesc⟩
  · intro hno
    exact exists_format_of_parse_ne_ok hs fun t ht => hno (exists_isBlocks_of_parse ht)

/-- A comment, an empty line and an indented last rule. -/
theorem parse_iff_blocks_indented :
    let source : Text :=
      "# endings\n\x7b \"A\", 1, 0, \x7b\x7d,\n\n\t\x7b\"s\",2\x7d\x7d;".toList
    let table : Table := [⟨['A'], 1, false, [], [⟨['s'], 2, [], []⟩]⟩]
    source.ShortNumerals ∧ parse source = .ok table ∧
      ∃ bs, IsBlocks bs (significant source.lines) ∧ List.Forall₂ Block.Describes bs table ∧
        table.length + table.ruleCount = (significant source.lines).length := by
  intro source table
  have hs : source.ShortNumerals :=
    fun run hrun _ => Nat.le_trans hrun.length_le (by decide)
  have ht : parse source = .ok table := by rfl
  obtain ⟨bs, hbs⟩ := (parse_iff_blocks hs).1.1 ⟨table, ht⟩
  exact ⟨hs, ht, bs, hbs, (parse_iff_blocks hs).2.1 table bs ht hbs⟩

end Table

end Desinence
