import TapeMachine.Proofs.Source.Written

namespace TapeMachine.Source

open Text

variable {symbol text name line : List Char} {rule : Rule} {rules : List Rule} {table : Table}
variable {draft : Draft} {number : Nat} {tape : List Char} {blank c : Char}

/-- A line that declares neither the tape nor the blank nor the start state. -/
def Line.Silent : Line → Prop
  | .input _ | .blank _ | .start _ => False
  | _ => True

theorem silent_of_no_lead (h : ∀ lead ∈ leads, ¬lead ++ [':'] <+: text) :
    (Line.read text).Silent := by
  rw [read_of_no_lead h]
  split
  next => trivial
  next =>
    obtain ⟨_, _, _, hr⟩ | hr | ⟨_, hr⟩ := readOther_cases text <;> rw [hr] <;> trivial

theorem content_bothQuotes (h : BothQuotes symbol) (text : List Char) :
    ∃ rest, Draft.content (ruleLine symbol text) = '"' :: rest := by
  have he : ruleLine symbol text =
      [' ', ' ', ' ', ' '] ++ (writeSymbol symbol ++ ':' :: ' ' :: '{' :: text) := rfl
  rw [he, content_blank_append (List.all_eq_true.mp (by decide)), Draft.content, withoutComment,
    writeSymbol_of_bothQuotes h, List.cons_append, stripComment, if_neg (by simp),
    trim_cons _ (by decide)]
  exact ⟨_, rfl⟩

theorem silent_ruleLine (symbol text : List Char) :
    (reading (ruleLine symbol text)).Silent := by
  by_cases h : BothQuotes symbol
  · obtain ⟨rest, hc⟩ := content_bothQuotes h text
    rw [reading, hc]
    exact silent_of_no_lead (no_lead_of_head (by decide) rest)
  · obtain ⟨_, hr⟩ | ⟨_, _, hr⟩ := read_ruleLine h text <;> rw [reading, hr] <;> trivial

theorem silent_headerLine (h : StateName name) : (reading (headerLine name)).Silent := by
  by_cases hr : name ∈ reserved
  · obtain hh | ⟨_, hh⟩ := read_header_reserved h hr <;> rw [reading, hh] <;> trivial
  · rw [reading, read_header h hr]
    trivial

theorem silent_blockLines (h : ∀ rule ∈ rules, DescribedRule rule) :
    ∀ one ∈ (blockLines rules).map reading, one.Silent := by
  intro one hm
  obtain ⟨line, hl, rfl⟩ := List.mem_map.mp hm
  obtain ⟨rule, hr, rfl⟩ | ⟨rule, _, rfl⟩ := mem_blockLines hl
  · exact silent_headerLine (h rule hr).source
  · exact silent_ruleLine _ _

theorem addLine_of_reading {one : Line} (h : reading line = one)
    (hn : one ≠ .faulty .unrecognized) :
    draft.addLine (line, number) = draft.add number (Draft.content line) := by
  obtain ⟨_, hr⟩ | hd := addLine_cases draft line number
  · exact absurd (h.symm.trans hr) hn
  · exact hd

/-- What the directives of a table leave behind for its blocks. -/
def directed (state : String) (blank : Char) (tape : List Char) : Draft where
  initialState := state
  blank := if isQuote blank then '_' else blank
  input := untilQuote tape
  warnings :=
    if isQuote blank then
      #[⟨2, "blank: " ++ quoteValue blank.toString, .blankNotOneCharacter⟩]
    else #[]

theorem directed_of_no_quote {tape : List Char} {blank : Char} (hb : isQuote blank = false)
    (ht : ∀ c ∈ tape, isQuote c = false) (state : String) :
    directed state blank tape = { initialState := state, blank, input := tape } := by
  simp [directed, hb, untilQuote_eq_self_iff.mpr ht]

theorem foldl_directiveLines (h : Quotable table tape blank) :
    ((directiveLines table).zipIdx 1).foldl Draft.addLine {} =
      directed table.initialState blank tape := by
  have hi := read_input_written h.quotes
  have hc := read_blank_written blank
  have hn := read_start_written h.initialState.1 h.initialState.2
  have hbt : blank.toString.toList = [blank] := by simp
  have hblank : reading ("blank:".toList ++ ' ' :: writeValue [blank]) ≠ .faulty .unrecognized := by
    rw [reading, hc]
    split <;> simp
  have hline : String.ofList (Draft.content ("blank:".toList ++ ' ' :: writeValue [blank])) =
      "blank: " ++ quoteValue blank.toString := by
    rw [content_blank_written, quoteValue, hbt, ← String.toList_inj]
    simp
  simp only [directiveLines, h.tape_eq, h.blank_eq, hbt, join_map_toString, List.zipIdx_cons,
    List.zipIdx_nil, List.foldl_cons, List.foldl_nil]
  rw [addLine_of_reading hi (by simp), addLine_of_reading rfl hblank,
    addLine_of_reading hn (by simp), addLine_of_reading read_table_written (by simp)]
  simp only [Draft.add, hi, hc, hn, read_table_written, String.ofList_toList]
  cases hquote : isQuote blank with
  | false => simp [directed, hquote]
  | true =>
    simp only [↓reduceIte, Draft.warn, hline, directed, hquote]
    rfl

theorem draft_source (h : Quotable table tape blank) :
    Draft.ofLines (directiveLines table ++ blockLines table.rules) =
      ((blockLines table.rules).zipIdx 5).foldl Draft.addLine
        (directed table.initialState blank tape) := by
  rw [Draft.ofLines, List.zipIdx_append, List.foldl_append, foldl_directiveLines h]
  rfl

/-- The blocks leave alone what the directives have declared. -/
theorem foldl_blockLines (hr : ∀ rule ∈ rules, DescribedRule rule) (draft : Draft) (number : Nat) :
    let after := ((blockLines rules).zipIdx number).foldl Draft.addLine draft
    after.initialState = draft.initialState ∧ after.blank = draft.blank ∧
      after.input = draft.input := by
  have hsilent := silent_blockLines hr
  refine ⟨?_, ?_, ?_⟩
  · refine (foldl_addLine_initialState _ _ _).resolve_right ?_
    rintro ⟨name, hm, _⟩
    exact hsilent _ hm
  · exact (foldl_addLine_blank _ _ _).resolve_right fun hm => hsilent _ hm
  · exact (foldl_addLine_input _ _ _).resolve_right fun hm => hsilent _ hm

/-- The directives are read up to the first quote of their values, whatever the rules are. -/
theorem ofText_source_directed (h : Quotable table tape blank)
    (hr : ∀ rule ∈ table.rules, DescribedRule rule) :
    (Program.ofText table.source).table =
      { (directed table.initialState blank tape).program.table with
        rules := (Program.ofText table.source).table.rules } := by
  obtain ⟨hstate, hblank, hinput⟩ :=
    foldl_blockLines hr (directed table.initialState blank tape) 5
  rw [← draft_source h] at hstate hblank hinput
  rw [ofText_source h hr]
  simp only [Program.ofLines, Draft.program, hstate, hblank, hinput]

/-- Without quotes in the values the directives are read back as they were. -/
theorem program_directed {c : Char} {rest : List Char} (h : Quotable table (c :: rest) blank)
    (ht : ∀ d ∈ c :: rest, Plain d) (hb : Plain blank) :
    (directed table.initialState blank (c :: rest)).program =
      { table := { table with rules := [] } } := by
  rw [directed_of_no_quote hb.no_quote fun d hd => (ht d hd).no_quote]
  simp [Draft.program, collect, h.tape_eq, h.blank_eq]

theorem Described.quotable (h : Described table) :
    ∃ c rest blank, Quotable table (c :: rest) blank ∧ (∀ d ∈ c :: rest, Plain d) ∧
      Plain blank := by
  obtain ⟨tape, blank, hq, ht, hb⟩ := h.declared.quotable
  cases tape with
  | nil =>
    obtain ⟨tape, hm, hne, _⟩ := h.initialTape
    exact absurd (List.map_eq_nil_iff.mp (hm.symm.trans hq.tape_eq)) hne
  | cons c rest => exact ⟨c, rest, blank, hq, ht, hb⟩

theorem ofText_source_directives (h : Described table) :
    (Program.ofText table.source).table.initialState = table.initialState ∧
      (Program.ofText table.source).table.blank = table.blank ∧
      (Program.ofText table.source).table.initialTape = table.initialTape := by
  obtain ⟨c, rest, blank, hq, ht, hb⟩ := h.quotable
  rw [ofText_source_directed hq h.rules, program_directed hq ht hb]
  exact ⟨rfl, rfl, rfl⟩

/-- The rules that the text of a table describes, those that are overridden among them. -/
def reread (table : Table) : List Rule :=
  rulesHeard table.blank none ((blockLines table.rules).map reading)

/-- Above the blocks no rule is described. -/
theorem rulesHeard_directives (h : Quotable table tape c) (blank : String)
    (rest : List Line) :
    rulesHeard blank none ((directiveLines table).map reading ++ rest) =
      rulesHeard blank none rest := by
  have hi := read_input_written h.quotes
  have hc := read_blank_written c
  have hn := read_start_written h.initialState.1 h.initialState.2
  have hbt : c.toString.toList = [c] := by simp
  simp only [directiveLines, h.tape_eq, h.blank_eq, hbt, join_map_toString, List.map_cons,
    List.map_nil, reading, hi, hc, hn, read_table_written]
  cases isQuote c <;> rfl

theorem rulesHeard_source (h : Described table) :
    rulesHeard table.blank none
        ((directiveLines table ++ blockLines table.rules).map reading) = reread table := by
  obtain ⟨c, rest, blank, hq, _⟩ := h.quotable
  rw [List.map_append, rulesHeard_directives hq]
  rfl

theorem mem_reread (h : Described table) (hr : rule ∈ (Program.ofText table.source).table.rules) :
    rule ∈ reread table := by
  have hb := (ofText_source_directives h).2.1
  obtain ⟨c, rest, blank, hq, _⟩ := h.quotable
  rw [ofText_source hq h.rules] at hr hb
  rw [← rulesHeard_source h, ← hb]
  exact mem_ofLines_rules hr

theorem not_header_of_ruleLine (h : ¬BothQuotes symbol) (text name : List Char) :
    reading (ruleLine symbol text) ≠ .header name := by
  obtain ⟨_, hr⟩ | ⟨_, _, hr⟩ := read_ruleLine h text <;> rw [reading, hr] <;> simp

theorem rulesHeard_blocks {spell : Rule → List Char} {all : List (String × List Rule)}
    (blank : String) (current : Option String)
    (hh : ∀ block ∈ all, reading (headerLine block.1.toList) = .header block.1.toList)
    (hr : ∀ block ∈ all, ∀ rule ∈ block.2,
      rule.source = block.1 ∧ ∀ name, reading (spell rule) ≠ .header name) :
    rulesHeard blank current
        ((all.flatMap fun block =>
          headerLine block.1.toList :: block.2.map spell).map reading) =
      (all.flatMap Prod.snd).flatMap fun rule =>
        (reading (spell rule)).rules blank rule.source := by
  -- The header of a block names its state, so that of the block before does not matter.
  induction all generalizing current with
  | nil => cases current <;> rfl
  | cons block all ih =>
    have ht := ih (some block.1) (fun other ho => hh other (List.mem_cons_of_mem block ho))
      fun other ho => hr other (List.mem_cons_of_mem block ho)
    have hb : ∀ one ∈ (block.2.map spell).map reading, ∀ name, one ≠ .header name := by
      intro one hm
      obtain ⟨line, hl, rfl⟩ := List.mem_map.mp hm
      obtain ⟨rule, hmem, rfl⟩ := List.mem_map.mp hl
      exact (hr block (by simp) rule hmem).2
    rw [List.flatMap_cons, List.map_append, List.map_cons, hh block (by simp), List.cons_append]
    simp only [rulesHeard, String.ofList_toList]
    rw [rulesHeard_block hb, ht, Option.elim_some, List.flatMap_cons, List.flatMap_append, List.flatMap_map,
      List.flatMap_map]
    congr 1
    refine List.flatMap_congr fun rule hm => ?_
    rw [(hr block (by simp) rule hm).1]

/-- Where every header opens its block, a rule line is read in the block of its own state. -/
theorem reread_eq (h : Described table)
    (hs : ∀ rule ∈ table.rules, rule.source.toList ∉ reserved)
    (hq : ∀ rule ∈ table.rules, ¬BothQuotes (readText rule)) :
    reread table =
      (regroup table.rules).flatMap fun rule =>
        (reading (lineText rule)).rules table.blank rule.source := by
  rw [← flatMap_blocks]
  refine rulesHeard_blocks table.blank none (fun block hb => ?_) fun block hb rule hr => ?_
  · obtain ⟨⟨rule, hr, he⟩, _⟩ := mem_blocks hb
    rw [he]
    exact read_header (h.rules rule hr).source (hs rule hr)
  · obtain ⟨hm, he⟩ := (mem_blocks hb).2 rule hr
    exact ⟨he, not_header_of_ruleLine (hq rule hm) _⟩

end TapeMachine.Source
