import TapeMachine.Proofs.Source.Rereading
import TapeMachine.Proofs.Table.Precedence

namespace TapeMachine.Source

open Text Table

variable {rule : Rule} {rules : List Rule} {table : Table} {a w : String}
variable {tape : List Char} {blank : Char}

/-- A rule whose line says what the rule says, in the block that its state opens. -/
structure Survives (rule : Rule) : Prop where
  source : rule.source.toList ∉ reserved
  no_lead : readText rule ∉ leads
  quotes : ¬BothQuotes (readText rule)
  blanks : KeepsBlanks (readText rule)
  write : ∀ symbol, clauseText rule = some symbol →
    Sealed (writeSymbol symbol) ∧ KeepsBlanks symbol
  target : Sealed rule.target.toList

theorem readRule_eq_ok {symbol target : List Char} {write : Option (List Char)} {move : Move}
    (ha : KeepsBlanks symbol)
    (hw : ∀ text, write = some text → Sealed (writeSymbol text) ∧ KeepsBlanks text)
    (ht : TargetName target) (hs : Sealed target) :
    readRule symbol (optionLine write move target) = .ok ⟨[symbol], write, move, target⟩ := by
  simp only [readRule, read_optionLine_of_sealed hw ht hs, unquote_writeSymbol ha]

/-- A line that keeps the write clause for a symbol that changes stands for what the rule does on
each of its symbols. -/
theorem meaning_eq_exactly (ha : a ≠ "") (hr : ∀ w, rule.read = .one w → w = a)
    (hw : ∀ w, rule.write = some w → w ≠ "") (blank : String) (symbols : List (List Char)) :
    RuleLine.meaning blank rule.source
        ⟨symbols, clauseText rule, rule.move, rule.target.toList⟩ a.toList = rule.exactly a := by
  simp only [RuleLine.meaning, Rule.exactly, Rule.leaves, clauseText, String.toList_eq_nil_iff, ha,
    ↓reduceIte, String.ofList_toList]
  cases hs : rule.write with
  | none => rfl
  | some w =>
    by_cases he : rule.read = .one w
    · simp [he, hr w he]
    · cases hl : w.toList with
      | nil => exact absurd (String.toList_eq_nil_iff.mp hl) (hw w hs)
      | cons c rest =>
        have hof : String.ofList (c :: rest) = w := by rw [← hl, String.ofList_toList]
        simp [he, hl, hof]

theorem reading_of_survives (ht : TargetName rule.target.toList) (hs : Survives rule) :
    reading (lineText rule) =
      .rule (.ok ⟨[readText rule], clauseText rule, rule.move, rule.target.toList⟩) := by
  have hl : trimLeft (writeSymbol (readText rule)) ∉ leads := by
    rw [trimLeft_writeSymbol hs.blanks, writeSymbol_mem_leads_iff]
    exact hs.no_lead
  obtain ⟨_, hr⟩ | ⟨hm, _⟩ := read_ruleLine hs.quotes
    (optionLine (clauseText rule) rule.move rule.target.toList)
  · rw [reading, lineText, hr, readRule_eq_ok hs.blanks hs.write ht hs.target]
  · exact absurd hm hl

theorem rules_of_survives (h : DescribedRule rule) (hs : Survives rule) (blank : String) :
    (reading (lineText rule)).rules blank rule.source = [rule] := by
  obtain ⟨a, w, ha, hw, hna, hnw⟩ := h.symbols
  have hr : readText rule = a.toList := by rw [readText, ha]
  have hone : ∀ b, rule.read = .one b → b = a := fun b hb => Pattern.one.inj (hb.symm.trans ha)
  have hwrite : ∀ b, rule.write = some b → b ≠ "" := by
    intro b hb
    cases hw.symm.trans hb
    simpa using hnw.ne_nil
  have hm := meaning_eq_exactly (by simpa using hna.ne_nil) hone hwrite blank [a.toList]
  rw [reading_of_survives h.target hs, hr]
  simp [Line.rules, hm, Rule.exactly_eq_self ha hw]

theorem readings_of_survives (h : ∀ rule ∈ rules, DescribedRule rule)
    (hs : ∀ rule ∈ rules, Survives rule) :
    (∀ line ∈ blockLines rules, (∃ name, reading line = .header name) ∨
      ∃ rule, reading line = .rule (.ok rule)) ∧
    ∀ line, (blockLines rules).head? = some line → ∃ name, reading line = .header name := by
  constructor
  · intro line hl
    obtain ⟨rule, hr, rfl⟩ | ⟨rule, hr, rfl⟩ := mem_blockLines hl
    · exact .inl ⟨_, read_header (h rule hr).source (hs rule hr).source⟩
    · exact .inr ⟨_, reading_of_survives (h rule hr).target (hs rule hr)⟩
  · intro line hl
    obtain ⟨rule, hr, rfl⟩ := head?_blockLines hl
    exact ⟨_, read_header (h rule hr).source (hs rule hr).source⟩

/-- The blocks of rules that survive describe them whatever the blank is. -/
theorem rulesHeard_blockLines (h : ∀ rule ∈ rules, DescribedRule rule)
    (hs : ∀ rule ∈ rules, Survives rule) (blank : String) :
    rulesHeard blank none ((blockLines rules).map reading) = regroup rules := by
  have hperm := regroup_perm rules
  have hone : ∀ rule ∈ regroup rules,
      (reading (lineText rule)).rules blank rule.source = [rule] := fun rule hr =>
    rules_of_survives (h rule (hperm.subset hr)) (hs rule (hperm.subset hr)) blank
  have hheard : rulesHeard blank none ((blockLines rules).map reading) =
      ((blocks rules).flatMap Prod.snd).flatMap fun rule =>
        (reading (lineText rule)).rules blank rule.source := by
    refine rulesHeard_blocks blank none (fun block hb => ?_) fun block hb rule hr => ?_
    · obtain ⟨⟨rule, hr, he⟩, _⟩ := mem_blocks hb
      rw [he]
      exact read_header (h rule hr).source (hs rule hr).source
    · obtain ⟨hm, he⟩ := (mem_blocks hb).2 rule hr
      exact ⟨he, not_header_of_ruleLine (hs rule hm).quotes _⟩
  rw [hheard, flatMap_blocks, List.flatMap_congr hone]
  simp

/-- Where all rules survive, the text of a table says what its directives say and gives its rules
back block by block. -/
theorem ofText_source_of_quotable (h : Quotable table tape blank)
    (hr : ∀ rule ∈ table.rules, DescribedRule rule) (hs : ∀ rule ∈ table.rules, Survives rule)
    (he : Exact table.rules) :
    Program.ofText table.source =
      { table := { (directed table.initialState blank tape).program.table with
          rules := regroup table.rules }
        warnings := (directed table.initialState blank tape).warnings.toList } := by
  obtain ⟨hlines, hhead⟩ := readings_of_survives hr hs
  have hwarnings : (Draft.ofLines (directiveLines table ++ blockLines table.rules)).warnings =
      (directed table.initialState blank tape).warnings := by
    rw [draft_source h, foldl_addLine_warnings hlines fun _ => hhead]
  have hsorted : (directed table.initialState blank tape).warnings.toList.mergeSort
      (fun a b => decide (a.line ≤ b.line)) =
        (directed table.initialState blank tape).warnings.toList := by
    cases hq : isQuote blank <;> simp [directed, hq]
  -- The blank that is read back need not be that of the table, so this is for any blank.
  have hrules : ∀ symbol, (Draft.ofLines (directiveLines table ++
      blockLines table.rules)).accepted.toList.map (Accepted.rule symbol) =
        regroup table.rules := by
    intro symbol
    rw [ofLines_accepted, List.map_append, rulesHeard_directives h, rulesHeard_blockLines hr hs]
  have hcollect : collect
      (Draft.ofLines (directiveLines table ++ blockLines table.rules)).blank.toString
      (Draft.ofLines (directiveLines table ++ blockLines table.rules)).accepted.toList =
        (regroup table.rules, []) := by
    rw [collect_of_nodup, hrules]
    rw [hrules]
    exact (he.perm (regroup_perm table.rules).symm).nodup
  have htable := ofText_source_directed h hr
  rw [ofText_source h hr] at htable ⊢
  have hprogram : Program.ofLines (directiveLines table ++ blockLines table.rules) =
      { table := (Program.ofLines (directiveLines table ++ blockLines table.rules)).table
        warnings := (directed table.initialState blank tape).warnings.toList } := by
    simp only [Program.ofLines, Draft.program, hcollect, hwarnings, List.append_nil, hsorted]
  have hheard : (Program.ofLines (directiveLines table ++ blockLines table.rules)).table.rules =
      regroup table.rules := by
    simp only [Program.ofLines, Draft.program, hcollect]
  rw [hprogram, htable, hheard]

/-- Where all rules survive the text of a table is read without a warning, and gives the table
back with its rules block by block. -/
theorem ofText_source_of_survives (h : Described table)
    (hs : ∀ rule ∈ table.rules, Survives rule) :
    Program.ofText table.source = { table := { table with rules := regroup table.rules } } := by
  obtain ⟨c, rest, blank, hq, ht, hb⟩ := h.quotable
  have hnone : (directed table.initialState blank (c :: rest)).warnings = #[] := by
    rw [directed_of_no_quote hb.no_quote fun d hd => (ht d hd).no_quote]
  rw [ofText_source_of_quotable hq h.rules hs h.exact, program_directed hq ht hb, hnone]

end TapeMachine.Source
