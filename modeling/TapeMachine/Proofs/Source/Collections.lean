import TapeMachine.Proofs.Source.LastClause
import TapeMachine.Proofs.Source.RoundTrip

namespace TapeMachine.Source

open Text Table

variable {rule : Rule} {table : Table}

/-- A table in the written format, whose rules read one symbol or several and may overlap. -/
structure Legible (table : Table) : Prop where
  declared : Declared table
  rules : ∀ rule ∈ table.rules, LegibleRule rule

theorem LegibleRule.members (h : LegibleRule rule) :
    ∀ symbol ∈ rule.read.members.map String.toList, WritableSymbol symbol := by
  intro symbol hs
  obtain ⟨a, ha, rfl⟩ := List.mem_map.mp hs
  exact h.symbols a ha

/-- A rule is read back with the symbols that it reads. -/
theorem reading_ruleText (h : LegibleRule rule) :
    reading (ruleText rule) =
      .rule (.ok ⟨rule.read.members.map String.toList, clauseText rule, rule.move,
        rule.target.toList⟩) := by
  obtain ⟨a, ha⟩ | hp := writePattern_cases rule.read
  · rw [ruleText_of_one ha, reading_of_survives h.target.targetName (h.survives ha)]
    simp [readText, ha, Pattern.members]
  · have ht : ruleText rule = listLine (rule.read.members.map String.toList)
        (optionLine (clauseText rule) rule.move rule.target.toList) := by
      simp [ruleText_eq, hp, listLine]
    rw [ht, reading_listLine (by simpa using h.reads) (fun symbol hs => (h.members symbol hs).quotes)
      (fun symbol hs => (h.members symbol hs).blanks) (fun _ => h.written) h.target.targetName
      h.target.isSealed]

theorem rules_ruleText (h : LegibleRule rule) (blank : String) :
    (reading (ruleText rule)).rules blank rule.source = rule.expanded := by
  rw [reading_ruleText h]
  simp only [Line.rules, List.map_map, Rule.expanded]
  refine List.map_congr_left fun a ha => ?_
  have hone : ∀ w, rule.read = .one w → w = a := by
    intro w hw
    rw [hw, Pattern.members, List.mem_singleton] at ha
    exact ha.symm
  have hwrite : ∀ w, rule.write = some w → w ≠ "" := by
    intro w hw
    simpa using (h.write w hw).ne_nil
  exact meaning_eq_exactly (by simpa using (h.symbols a ha).ne_nil) hone hwrite blank _

theorem oneLine_sourceLines (h : Legible table) :
    ∀ line ∈ table.sourceLines.map String.toList, ∀ c ∈ line, isLineEnd c = false := by
  obtain ⟨_, _, hq, _⟩ := h.declared.quotable
  rw [sourceLines_toList]
  intro line hl
  rcases List.mem_append.mp hl with hl | hl
  · exact oneLine_directiveLines hq hl
  · obtain ⟨block, hb, hl⟩ := List.mem_flatMap.mp hl
    obtain ⟨⟨rule, hr, he⟩, hm⟩ := mem_blocks hb
    rcases List.mem_cons.mp hl with rfl | hl
    · rw [he]
      exact oneLine_headerLine (h.rules rule hr).source.stateName
    · obtain ⟨other, ho, rfl⟩ := List.mem_map.mp hl
      have hr := h.rules other (hm other ho).1
      exact oneLine_ruleText (fun a ha => (hr.symbols a ha).one_line)
        (fun w hw => (hr.write w hw).one_line)
        fun c hc => isLineEnd_of_not_blank (hr.target.no_blank c hc)

/-- The text of a table describes its rules state by state, each taken apart into its symbols. -/
theorem rulesHeard_sourceLines (h : Legible table) (blank : String) :
    rulesHeard blank none ((table.sourceLines.map String.toList).map reading) =
      (regroup table.rules).flatMap Rule.expanded := by
  have hblocks : rulesHeard blank none (((blocks table.rules).flatMap fun block =>
      headerLine block.1.toList :: block.2.map ruleText).map reading) =
      ((blocks table.rules).flatMap Prod.snd).flatMap fun rule =>
        (reading (ruleText rule)).rules blank rule.source := by
    refine rulesHeard_blocks blank none (fun block hb => ?_) fun block hb rule hr => ?_
    · obtain ⟨⟨rule, hr, he⟩, _⟩ := mem_blocks hb
      have hl := h.rules rule hr
      rw [he]
      refine read_header hl.source.stateName (hl.source.not_reserved ?_)
      rw [String.ofList_toList]
      exact hl.source_free
    · obtain ⟨hm, he⟩ := (mem_blocks hb).2 rule hr
      refine ⟨he, fun name hn => ?_⟩
      rw [reading_ruleText (h.rules rule hm)] at hn
      simp at hn
  obtain ⟨_, _, hq, _⟩ := h.declared.quotable
  rw [sourceLines_toList, List.map_append, rulesHeard_directives hq, hblocks, flatMap_blocks]
  refine List.flatMap_congr fun rule hr => ?_
  exact rules_ruleText (h.rules rule ((regroup_perm table.rules).subset hr)) blank

theorem lastFor_regroup (state symbol : String) (rules : List Rule) :
    lastFor state symbol (regroup rules) = lastFor state symbol rules := by
  have hf : ∀ rules : List Rule, rules.filter (fun rule => rule.applies state symbol) =
      (rules.filter fun rule => decide (rule.source = state)).filter fun rule =>
        rule.read.reads symbol := by
    intro rules
    rw [List.filter_filter]
    refine List.filter_congr fun rule _ => ?_
    rw [Rule.applies, Bool.and_comm, Bool.beq_eq_decide_eq]
  rw [lastFor, lastFor, ← List.getLast?_filter, ← List.getLast?_filter, hf, filter_regroup, ← hf]

/-- Of the rules that cover a symbol the last is the one that the text of a table keeps. -/
theorem lookup_source_of_legible (h : Legible table) (state symbol : String) :
    (Program.ofText table.source).table.lookup state symbol =
      (lastFor state symbol table.rules).map fun rule => rule.exactly symbol := by
  rw [ofText_source_of_oneLine (oneLine_sourceLines h), lookup_ofLines, rulesHeard_sourceLines h,
    lastOf_expanded, lastFor_regroup]

end TapeMachine.Source
