import TapeMachine.Proofs.Source.Blocks
import TapeMachine.Proofs.Source.Described
import TapeMachine.Proofs.Source.SymbolLists

namespace TapeMachine.Source

open Text

variable {rule : Rule} {table : Table} {a : String} {tape : List Char} {blank : Char}

/-- The symbol that a rule reads, where it reads one only. -/
def readText (rule : Rule) : List Char :=
  match rule.read with
  | .one symbol => symbol.toList
  | _ => []

/-- The symbol of the write clause, where a rule needs one. -/
def clauseText (rule : Rule) : Option (List Char) :=
  match rule.write with
  | none => none
  | some symbol => if rule.read = .one symbol then none else some symbol.toList

theorem clauseText_eq_some {symbol : List Char} (h : clauseText rule = some symbol) :
    ∃ w, rule.write = some w ∧ rule.read ≠ .one w ∧ symbol = w.toList := by
  unfold clauseText at h
  split at h
  next => simp at h
  next w hw =>
    split at h
    next => simp at h
    next hne => exact ⟨w, hw, hne, (Option.some.inj h).symm⟩

def lineText (rule : Rule) : List Char :=
  ruleLine (readText rule) (optionLine (clauseText rule) rule.move rule.target.toList)

def blockText (block : String × List Rule) : List (List Char) :=
  headerLine block.1.toList :: block.2.map lineText

def blockLines (rules : List Rule) : List (List Char) :=
  (blocks rules).flatMap blockText

def directiveLines (table : Table) : List (List Char) :=
  ["input:".toList ++ ' ' :: writeValue (String.join table.initialTape).toList,
    "blank:".toList ++ ' ' :: writeValue table.blank.toList,
    "start state:".toList ++ ' ' :: table.initialState.toList,
    "table:".toList]

/-- The line of a rule, whether it reads one symbol or a collection. -/
def ruleText (rule : Rule) : List Char :=
  ("    " ++ writeRule rule).toList

theorem ruleText_eq (rule : Rule) :
    ruleText rule =
      ' ' :: ' ' :: ' ' :: ' ' :: ((writePattern rule.read).toList ++ ':' :: ' ' :: '{' ::
        optionLine (clauseText rule) rule.move rule.target.toList) := by
  have hc : (", ".intercalate
      (writeClauses rule ++ [rule.move.letter.toString ++ ": " ++ rule.target])).toList =
      writePart (clauseText rule) ++ rule.move.letter :: ':' :: ' ' :: rule.target.toList := by
    unfold writeClauses clauseText
    cases rule.write with
    | none => simp [writePart]
    | some symbol =>
      simp only
      split
      next => simp [writePart]
      next => simp [writePart, writeLead, quoteSymbol]
  simp only [ruleText, writeRule, String.toList_append, hc]
  simp [optionLine, optionText]

/-- A rule is written on the one symbol that it reads, or on a list in brackets. -/
theorem writePattern_cases (read : Pattern) :
    (∃ a, read = .one a) ∨
      (writePattern read).toList = '[' :: (listText (read.members.map String.toList) ++ [']']) := by
  cases read with
  | one a => exact .inl ⟨a, rfl⟩
  | list symbols | set symbols =>
    refine .inr ?_
    simp [writePattern, listText, String.toList_intercalate, quoteSymbol, Function.comp_def]

theorem ruleText_of_one (h : rule.read = .one a) : ruleText rule = lineText rule := by
  rw [ruleText_eq, lineText, ruleLine, readText, h]
  simp [writePattern, quoteSymbol]

theorem sourceLines_toList (table : Table) :
    table.sourceLines.map String.toList =
      directiveLines table ++ (blocks table.rules).flatMap fun block =>
        headerLine block.1.toList :: block.2.map ruleText := by
  rw [Table.sourceLines, List.map_append]
  refine congrArg₂ (· ++ ·) ?_ ?_
  · simp [directiveLines, quoteValue]
  · rw [List.map_flatMap]
    refine List.flatMap_congr fun block _ => ?_
    simp [writeBlock, headerLine, ruleText]

theorem flatMap_ruleText {rules : List Rule} (h : ∀ rule ∈ rules, ∃ a, rule.read = .one a) :
    ((blocks rules).flatMap fun block => headerLine block.1.toList :: block.2.map ruleText) =
      blockLines rules := by
  refine List.flatMap_congr fun block hb => ?_
  rw [blockText]
  congr 1
  refine List.map_congr_left fun rule hr => ?_
  obtain ⟨a, ha⟩ := h rule ((mem_blocks hb).2 rule hr).1
  exact ruleText_of_one ha

theorem toList_source (table : Table) :
    table.source.toList = (table.sourceLines.map String.toList).flatMap (· ++ ['\n']) := by
  have hj : ∀ lines : List (List Char), lines ≠ [] →
      ['\n'].intercalate lines ++ ['\n'] = lines.flatMap (· ++ ['\n']) := by
    intro lines hne
    induction lines with
    | nil => exact absurd rfl hne
    | cons line lines ih =>
      cases lines with
      | nil => simp
      | cons next lines =>
        simp only [List.intercalate_cons_cons, List.append_assoc, ih (by simp)]
        simp
  rw [Table.source, String.toList_append, String.toList_intercalate]
  exact hj _ (by simp [Table.sourceLines])

theorem oneLine_writeSymbol {symbol : List Char} (h : ∀ c ∈ symbol, isLineEnd c = false) :
    ∀ c ∈ writeSymbol symbol, isLineEnd c = false := by
  obtain ⟨he, _⟩ | ⟨quote, he, hq, _⟩ := writeSymbol_cases symbol
  · rwa [he]
  · have hn := isLineEnd_of_not_blank (isBlank_quote hq)
    rw [he]
    simpa [hn, or_imp, forall_and] using h

theorem oneLine_optionLine {write : Option (List Char)} {move : Move} {target : List Char}
    (hw : ∀ symbol, write = some symbol → ∀ c ∈ symbol, isLineEnd c = false)
    (ht : ∀ c ∈ target, isLineEnd c = false) :
    ∀ c ∈ optionLine write move target, isLineEnd c = false := by
  have hp : ∀ c ∈ writePart write, isLineEnd c = false := by
    cases write with
    | none => simp [writePart]
    | some symbol =>
      have hl : ∀ c ∈ writeLead, isLineEnd c = false := forall_eq_false_of_all (by decide)
      have hs : ∀ c ∈ [',', ' '], isLineEnd c = false := forall_eq_false_of_all (by decide)
      simp only [writePart, List.forall_mem_append]
      exact ⟨hl, oneLine_writeSymbol (hw symbol rfl), hs⟩
  have hm : isLineEnd move.letter = false := isLineEnd_of_not_blank (isBlank_letter move)
  simp only [optionLine, optionText, List.forall_mem_append, List.forall_mem_cons]
  exact ⟨hp, hm, by decide, by decide, ht, by decide, List.forall_mem_nil _⟩

theorem oneLine_listText {symbols : List (List Char)}
    (h : ∀ symbol ∈ symbols, ∀ c ∈ symbol, isLineEnd c = false) :
    ∀ c ∈ listText symbols, isLineEnd c = false := by
  induction symbols with
  | nil => simp [listText]
  | cons symbol symbols ih =>
    have hs := oneLine_writeSymbol (h symbol (by simp))
    cases symbols with
    | nil => rwa [listText_singleton]
    | cons next symbols =>
      rw [listText_cons_cons, List.forall_mem_append, List.forall_mem_cons, List.forall_mem_cons]
      exact ⟨hs, by decide, by decide,
        ih fun other ho => h other (List.mem_cons_of_mem symbol ho)⟩

theorem oneLine_ruleText (hr : ∀ a ∈ rule.read.members, ∀ c ∈ a.toList, isLineEnd c = false)
    (hw : ∀ w, rule.write = some w → ∀ c ∈ w.toList, isLineEnd c = false)
    (ht : ∀ c ∈ rule.target.toList, isLineEnd c = false) :
    ∀ c ∈ ruleText rule, isLineEnd c = false := by
  have hp : ∀ c ∈ (writePattern rule.read).toList, isLineEnd c = false := by
    obtain ⟨a, ha⟩ | hp := writePattern_cases rule.read
    · rw [ha] at hr ⊢
      simp only [writePattern, quoteSymbol, String.toList_ofList]
      exact oneLine_writeSymbol (hr a (by simp [Pattern.members]))
    · rw [hp, List.forall_mem_cons, List.forall_mem_append]
      have hl := @oneLine_listText (rule.read.members.map String.toList) (by simpa using hr)
      exact ⟨by decide, hl, forall_eq_false_of_all (by decide)⟩
  have ho := @oneLine_optionLine (clauseText rule) rule.move rule.target.toList
    (fun symbol he => by
      obtain ⟨w, hwrite, _, rfl⟩ := clauseText_eq_some he
      exact hw w hwrite) ht
  simp only [ruleText_eq, List.forall_mem_append, List.forall_mem_cons]
  exact ⟨by decide, by decide, by decide, by decide, hp, by decide, by decide, by decide, ho⟩

theorem oneLine_lineText (h : DescribedRule rule) : ∀ c ∈ lineText rule, isLineEnd c = false := by
  obtain ⟨a, w, ha, hw, hsa, hsw⟩ := h.symbols
  rw [← ruleText_of_one ha]
  refine oneLine_ruleText ?_ (fun written hwritten => ?_) fun c hc => ?_
  · simpa [ha, Pattern.members] using hsa.one_line
  · cases hw.symm.trans hwritten
    exact hsw.one_line
  · exact isLineEnd_of_not_blank (h.target.no_blank c hc)

theorem oneLine_headerLine {name : List Char} (h : StateName name) :
    ∀ c ∈ headerLine name, isLineEnd c = false := by
  simp only [headerLine, List.forall_mem_append, List.forall_mem_cons]
  exact ⟨by decide, by decide, h.one_line, by decide, List.forall_mem_nil _⟩

theorem mem_blockLines {rules : List Rule} {line : List Char} (h : line ∈ blockLines rules) :
    (∃ rule ∈ rules, line = headerLine rule.source.toList) ∨
      ∃ rule ∈ rules, line = lineText rule := by
  obtain ⟨block, hb, hl⟩ := List.mem_flatMap.mp h
  obtain ⟨⟨rule, hr, he⟩, hm⟩ := mem_blocks hb
  rcases List.mem_cons.mp hl with rfl | hl
  · exact .inl ⟨rule, hr, by rw [he]⟩
  · obtain ⟨other, ho, rfl⟩ := List.mem_map.mp hl
    exact .inr ⟨other, (hm other ho).1, rfl⟩

theorem head?_blockLines {rules : List Rule} {line : List Char}
    (h : (blockLines rules).head? = some line) :
    ∃ rule ∈ rules, line = headerLine rule.source.toList := by
  cases hb : blocks rules with
  | nil => simp [blockLines, hb] at h
  | cons block rest =>
    obtain ⟨⟨rule, hr, he⟩, _⟩ := mem_blocks (show block ∈ blocks rules by simp [hb])
    rw [blockLines, hb, List.flatMap_cons, blockText] at h
    exact ⟨rule, hr, by rw [← he]; exact (Option.some.inj h).symm⟩

theorem oneLine_blockLines {rules : List Rule} (h : ∀ rule ∈ rules, DescribedRule rule)
    {line : List Char} (hl : line ∈ blockLines rules) : ∀ c ∈ line, isLineEnd c = false := by
  obtain ⟨rule, hr, rfl⟩ | ⟨rule, hr, rfl⟩ := mem_blockLines hl
  · exact oneLine_headerLine (h rule hr).source
  · exact oneLine_lineText (h rule hr)

theorem join_map_toString (tape : List Char) :
    (String.join (tape.map Char.toString)).toList = tape := by
  rw [String.toList_join, List.flatMap_map]
  induction tape with
  | nil => rfl
  | cons c tape ih =>
    rw [List.flatMap_cons, ih]
    simp

/-- A table whose directives hold what it declares. -/
structure Declared (table : Table) : Prop where
  initialState : table.initialState.toList ≠ [] ∧ ∀ c ∈ table.initialState.toList, isWord c = true
  blank : ∃ c, table.blank = c.toString ∧ Plain c
  initialTape : ∃ tape : List Char, table.initialTape = tape.map Char.toString ∧ ∀ c ∈ tape, Plain c

theorem Described.declared (h : Described table) : Declared table where
  initialState := h.initialState
  blank := h.blank
  initialTape := by
    obtain ⟨tape, ht, _, hp⟩ := h.initialTape
    exact ⟨tape, ht, hp⟩

/-- A table with this tape and this blank, each of whose directives is one line with its value in
quotes that the value does not hold. -/
structure Quotable (table : Table) (tape : List Char) (blank : Char) : Prop where
  initialState : table.initialState.toList ≠ [] ∧ ∀ c ∈ table.initialState.toList, isWord c = true
  tape_eq : table.initialTape = tape.map Char.toString
  blank_eq : table.blank = blank.toString
  tape_one_line : ∀ c ∈ tape, isLineEnd c = false
  blank_one_line : isLineEnd blank = false
  quotes : ¬BothQuotes tape

theorem Declared.quotable (h : Declared table) :
    ∃ tape blank, Quotable table tape blank ∧ (∀ c ∈ tape, Plain c) ∧ Plain blank := by
  obtain ⟨tape, ht, htp⟩ := h.initialTape
  obtain ⟨blank, hb, hbp⟩ := h.blank
  refine ⟨tape, blank, ?_, htp, hbp⟩
  exact
    { initialState := h.initialState
      tape_eq := ht
      blank_eq := hb
      tape_one_line := fun c hc => (htp c hc).one_line
      blank_one_line := hbp.one_line
      quotes := not_bothQuotes_of_no_quote fun c hc => (htp c hc).no_quote }

theorem oneLine_writeValue {text : List Char} (hb : ¬BothQuotes text)
    (h : ∀ c ∈ text, isLineEnd c = false) : ∀ c ∈ writeValue text, isLineEnd c = false := by
  obtain ⟨quote, hquote, _, hw⟩ := writeValue_cases hb
  have hq := isLineEnd_of_not_blank (isBlank_quote hquote)
  rw [hw, List.forall_mem_cons, List.forall_mem_append]
  exact ⟨hq, h, by simpa using hq⟩

theorem oneLine_directiveLines (h : Quotable table tape blank) {line : List Char}
    (hl : line ∈ directiveLines table) : ∀ c ∈ line, isLineEnd c = false := by
  simp only [directiveLines, h.tape_eq, h.blank_eq, join_map_toString, List.mem_cons,
    List.not_mem_nil, or_false] at hl
  rcases hl with rfl | rfl | rfl | rfl
  · rw [List.forall_mem_append, List.forall_mem_cons]
    exact ⟨forall_eq_false_of_all (by decide), by decide,
      oneLine_writeValue h.quotes h.tape_one_line⟩
  · rw [List.forall_mem_append, List.forall_mem_cons]
    refine ⟨forall_eq_false_of_all (by decide), by decide, ?_⟩
    have hs : blank.toString.toList = [blank] := by simp
    rw [hs]
    exact oneLine_writeValue (not_bothQuotes_singleton blank) (by simpa using h.blank_one_line)
  · rw [List.forall_mem_append, List.forall_mem_cons]
    exact ⟨forall_eq_false_of_all (by decide), by decide, fun c hc =>
      isLineEnd_of_not_blank (isBlank_of_isWord (h.initialState.2 c hc))⟩
  · exact forall_eq_false_of_all (by decide)

/-- A text of lines is read line by line as it was written. -/
theorem ofText_source_of_oneLine
    (h : ∀ line ∈ table.sourceLines.map String.toList, ∀ c ∈ line, isLineEnd c = false) :
    Program.ofText table.source = Program.ofLines (table.sourceLines.map String.toList) := by
  rw [Program.ofText, toList_source, lines_flatMap_newline h]

/-- The text of a table that reads one symbol in each rule is its directives and its blocks. -/
theorem ofText_source (h : Quotable table tape blank)
    (hr : ∀ rule ∈ table.rules, DescribedRule rule) :
    Program.ofText table.source =
      Program.ofLines (directiveLines table ++ blockLines table.rules) := by
  have hone : ∀ rule ∈ table.rules, ∃ a, rule.read = .one a := by
    intro rule hm
    obtain ⟨a, _, ha, _⟩ := (hr rule hm).symbols
    exact ⟨a, ha⟩
  have hlines : table.sourceLines.map String.toList =
      directiveLines table ++ blockLines table.rules := by
    rw [sourceLines_toList, flatMap_ruleText hone]
  rw [ofText_source_of_oneLine, hlines]
  rw [hlines]
  intro line hl
  rcases List.mem_append.mp hl with hl | hl
  · exact oneLine_directiveLines h hl
  · exact oneLine_blockLines hr hl

end TapeMachine.Source
