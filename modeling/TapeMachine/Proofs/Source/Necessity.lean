import TapeMachine.Proofs.Source.LostWrites
import TapeMachine.Proofs.Source.Survival

namespace TapeMachine.Source

open Text Table

variable {symbol text : List Char} {rule other : Rule} {table : Table} {line : RuleLine}

/-- A symbol is read back from where it is written, perhaps without the blanks around it. -/
theorem unquote_writeSymbol_facts (symbol : List Char) :
    unquote (writeSymbol symbol) ⊆ symbol ∧ KeepsBlanks (unquote (writeSymbol symbol)) := by
  obtain ⟨he, hs, _⟩ | ⟨quote, he, hq, _, hk⟩ := writeSymbol_cases symbol
  · rw [he, unquote_of_no_quote fun c hc => isQuote_of_not_special (hs c hc)]
    exact ⟨trim_subset symbol, .inl (trim_trim symbol)⟩
  · rw [he, unquote_quoted hq]
    exact ⟨List.Subset.refl _, .inr (hk.imp List.all_eq_true.mpr List.any_eq_true.mpr)⟩

theorem symbols_of_quote {rest : List Char} (h : RuleLine.read ('"' :: rest) = .ok line) :
    ∀ symbol ∈ line.symbols, '"' ∉ symbol := by
  obtain ⟨options, hs, _⟩ := ruleLine_read_eq_ok h
  obtain ⟨he, _⟩ | ⟨_, _, he, _⟩ | ⟨quote, tail, he, _, hsym, _⟩ | ⟨c, _, he, hc, _⟩ :=
    splitSymbols_cases hs
  · simp at he
  · simp at he
  · obtain ⟨rfl, rfl⟩ := List.cons.inj he
    rw [hsym]
    intro symbol hm hq
    rw [List.mem_singleton.mp hm] at hq
    simpa using List.mem_takeWhile_imp hq
  · rw [← (List.cons.inj he).1] at hc
    exact absurd hc (by decide)

/-- What a rule line has said if it counts. -/
theorem ruleLine_of_reading (hq : ¬BothQuotes symbol)
    (h : reading (ruleLine symbol text) = .rule (.ok line)) :
    trimLeft (writeSymbol symbol) ∉ leads ∧ line.symbols = [unquote (writeSymbol symbol)] ∧
      line.write = (Options.read (' ' :: '{' :: remainder text)).write ∧
      (Options.read (' ' :: '{' :: remainder text)).step = some (line.move, line.target) := by
  obtain ⟨hl, hr⟩ | ⟨_, _, hr⟩ := read_ruleLine hq text
  · have hok : readRule symbol text = .ok line := by
      rw [reading, hr] at h
      exact Line.rule.inj h
    refine ⟨hl, ?_⟩
    simp only [readRule] at hok
    split at hok
    next => cases hok
    next move target hstep =>
      cases hok
      exact ⟨rfl, rfl, hstep⟩
  · simp [reading, hr] at h

/-- No rule line tells of a symbol with both quotes. -/
theorem symbols_of_ruleLine (h : reading (ruleLine symbol text) = .rule (.ok line)) :
    ∀ read ∈ line.symbols, ¬BothQuotes read := by
  intro read hm hb
  by_cases hq : BothQuotes symbol
  · obtain ⟨rest, hc⟩ := content_bothQuotes hq text
    have ht := tells_of_reading h
    rw [hc] at ht
    exact symbols_of_quote (Eq.symm ht) read hm hb.2
  · have hs := (ruleLine_of_reading hq h).2.1
    rw [hs, List.mem_singleton] at hm
    have hsub := (unquote_writeSymbol_facts symbol).1
    exact hq ⟨hsub (hm ▸ hb.1), hsub (hm ▸ hb.2)⟩

theorem header_not_rule {name : List Char} (h : StateName name) (body : Except Reason RuleLine) :
    reading (headerLine name) ≠ .rule body := by
  by_cases hr : name ∈ reserved
  · obtain hh | ⟨_, hh⟩ := read_header_reserved h hr <;> rw [reading, hh] <;> simp
  · rw [reading, read_header h hr]
    simp

theorem readText_meaning (blank state : String) (line : RuleLine) (symbol : List Char) :
    readText (line.meaning blank state symbol) = if symbol = [] then blank.toList else symbol := by
  simp only [RuleLine.meaning, readText]
  split
  next => rfl
  next => rw [String.toList_ofList]

/-- The blank is one character and no quote. -/
theorem blank_facts_of_described (h : Described table) :
    ¬BothQuotes table.blank.toList ∧ KeepsBlanks table.blank.toList := by
  obtain ⟨c, hc, hp⟩ := h.blank
  have hl : table.blank.toList = [c] := by simp [hc]
  rw [hl]
  constructor
  · rintro ⟨hs, hd⟩
    rw [List.mem_singleton] at hs
    rw [← hs] at hp
    exact absurd hp.no_quote (by decide)
  · cases hb : isBlank c with
    | true => exact .inr (.inl (by simp [isBlankText, hb]))
    | false => exact .inl (trim_eq_self_iff.mpr ⟨by simp [hb], by simp [hb]⟩)

theorem quotes_of_mem_reread (h : Described table) (hr : rule ∈ reread table) :
    ¬BothQuotes (readText rule) := by
  obtain ⟨_, line, symbol, hl, hs, he⟩ := mem_rulesHeard hr
  obtain ⟨text, ht, hread⟩ := List.mem_map.mp hl
  rw [he, readText_meaning]
  obtain ⟨other, ho, rfl⟩ | ⟨other, _, rfl⟩ := mem_blockLines ht
  · exact absurd hread (header_not_rule (h.rules other ho).source _)
  · split
    next => exact (blank_facts_of_described h).1
    next => exact symbols_of_ruleLine hread symbol hs

theorem source_of_mem_reread (h : Described table)
    (hq : ∀ rule ∈ table.rules, ¬BothQuotes (readText rule)) (hr : rule ∈ reread table) :
    rule.source.toList ∉ reserved := by
  obtain ⟨hs, _⟩ := mem_rulesHeard hr
  obtain ⟨name, hn, he⟩ := hs.resolve_left (by simp)
  obtain ⟨text, ht, hread⟩ := List.mem_map.mp hn
  obtain ⟨other, ho, rfl⟩ | ⟨other, ho, rfl⟩ := mem_blockLines ht
  · have hname := (h.rules other ho).source
    by_cases hm : other.source.toList ∈ reserved
    · obtain hh | ⟨_, hh⟩ := read_header_reserved hname hm <;> simp [reading, hh] at hread
    · have heq : other.source.toList = name := by
        rw [reading, read_header hname hm] at hread
        exact Line.header.inj hread
      rwa [he, String.toList_ofList, ← heq]
  · exact absurd hread (not_header_of_ruleLine (hq other ho) _ _)

/-- Where every header opens its block, a rule comes from the line of a rule of its state. -/
theorem origin_of_mem_reread (h : Described table)
    (hs : ∀ rule ∈ table.rules, rule.source.toList ∉ reserved)
    (hq : ∀ rule ∈ table.rules, ¬BothQuotes (readText rule)) (hr : rule ∈ reread table) :
    ∃ other ∈ table.rules, ∃ line : RuleLine, reading (lineText other) = .rule (.ok line) ∧
      rule = line.meaning table.blank other.source (unquote (writeSymbol (readText other))) := by
  rw [reread_eq h hs hq] at hr
  obtain ⟨other, ho, hm⟩ := List.mem_flatMap.mp hr
  have ho := (regroup_perm table.rules).subset ho
  obtain ⟨line, symbol, hl, hsym, he⟩ := mem_rules hm
  rw [(ruleLine_of_reading (hq other ho) hl).2.1, List.mem_singleton] at hsym
  exact ⟨other, ho, line, hl, hsym ▸ he⟩

theorem blanks_of_meaning (h : Described table)
    (he : rule = line.meaning table.blank other.source (unquote (writeSymbol symbol))) :
    KeepsBlanks (readText rule) := by
  rw [he, readText_meaning]
  split
  next => exact (blank_facts_of_described h).2
  next => exact (unquote_writeSymbol_facts symbol).2

theorem readText_ne_nil (h : DescribedRule rule) : readText rule ≠ [] := by
  obtain ⟨a, _, ha, _, hna, _⟩ := h.symbols
  rw [readText, ha]
  exact hna.ne_nil

theorem key_eq_of_readText (hr : DescribedRule rule) (ho : DescribedRule other)
    (hs : rule.source = other.source) (ht : readText rule = readText other) :
    rule.key = other.key := by
  obtain ⟨a, _, ha, _⟩ := hr.symbols
  obtain ⟨b, _, hb, _⟩ := ho.symbols
  rw [readText, readText, ha, hb] at ht
  rw [Rule.key, Rule.key, hs, ha, hb, String.toList_inj.mp ht]

/-- If every rule is read back, it is so from its own line. -/
theorem own_line (h : Described table) (hall : ∀ rule ∈ table.rules, rule ∈ reread table)
    (hs : ∀ rule ∈ table.rules, rule.source.toList ∉ reserved)
    (hq : ∀ rule ∈ table.rules, ¬BothQuotes (readText rule)) (hr : rule ∈ table.rules) :
    KeepsBlanks (readText rule) ∧ ∃ line : RuleLine, reading (lineText rule) = .rule (.ok line) ∧
      rule = line.meaning table.blank rule.source (readText rule) := by
  have hkeeps : ∀ rule ∈ table.rules, KeepsBlanks (readText rule) := by
    intro rule hr
    obtain ⟨_, _, _, _, he⟩ := origin_of_mem_reread h hs hq (hall rule hr)
    exact blanks_of_meaning h he
  obtain ⟨other, ho, line, hl, he⟩ := origin_of_mem_reread h hs hq (hall rule hr)
  rw [unquote_writeSymbol (hkeeps other ho)] at he
  have hsource : rule.source = other.source := by rw [he]; rfl
  have htext : readText rule = readText other := by
    rw [he, readText_meaning, if_neg (readText_ne_nil (h.rules other ho))]
  -- The line that gives the rule is that of a rule with its key, and there is no other such rule.
  have hsame : rule = other := h.exact.eq_of_key hr ho
    (key_eq_of_readText (h.rules rule hr) (h.rules other ho) hsource htext)
  refine ⟨hkeeps rule hr, line, hsame ▸ hl, ?_⟩
  rw [htext, hsource]
  exact he

theorem write_of_meaning {blank : String} (hne : readText rule ≠ [])
    (he : rule = line.meaning blank rule.source (readText rule))
    (hc : clauseText rule = some symbol) :
    line.write = some symbol ∨ line.write = some [] ∧ symbol = blank.toList := by
  have hread : rule.read = .one (String.ofList (readText rule)) := by
    conv_lhs => rw [he]
    simp only [RuleLine.meaning, if_neg hne]
  have hwrite := congrArg Rule.write he
  simp only [RuleLine.meaning, if_neg hne] at hwrite
  obtain ⟨w, hw, hnew, rfl⟩ := clauseText_eq_some hc
  rw [hwrite, Option.some.injEq] at hw
  split at hw
  next => exact absurd (hw ▸ hread) hnew
  next hl => exact .inr ⟨hl, by rw [hw]⟩
  next written _ hl => exact .inl (by rw [hl, ← hw, String.toList_ofList])

theorem survives_of_own_line (h : Described table) (hr : rule ∈ table.rules)
    (hs : rule.source.toList ∉ reserved) (hq : ¬BothQuotes (readText rule))
    (hk : KeepsBlanks (readText rule)) (hl : reading (lineText rule) = .rule (.ok line))
    (he : rule = line.meaning table.blank rule.source (readText rule)) : Survives rule := by
  obtain ⟨hlead, _, hwrite, hstep⟩ := ruleLine_of_reading hq hl
  rw [trimLeft_writeSymbol hk, writeSymbol_mem_leads_iff] at hlead
  have ht := (h.rules rule hr).target
  have hmove : line.move = rule.move := (congrArg Rule.move he).symm
  have htarget : line.target = rule.target.toList := by
    rw [congrArg Rule.target he]
    exact String.toList_ofList.symm
  have hclause : ∀ symbol, clauseText rule = some symbol →
      line.write = some symbol ∨ line.write = some [] ∧ symbol = table.blank.toList :=
    fun symbol hc => write_of_meaning (readText_ne_nil (h.rules rule hr)) he hc
  have hsealed : SealedWrite (clauseText rule) := by
    intro symbol hc
    by_cases hb : BothQuotes symbol
    · rcases hclause symbol hc with hw | ⟨_, rfl⟩
      · rw [hwrite, hc, optionLine_some] at hw
        exact sealed_of_write hb hw
      · exact absurd hb (blank_facts_of_described h).1
    · exact sealed_writeSymbol hb
  have hblanks : ∀ symbol, clauseText rule = some symbol → KeepsBlanks symbol := by
    intro symbol hc
    rcases hclause symbol hc with hw | ⟨_, rfl⟩
    · rw [hwrite, read_optionLine hsealed ht, hc] at hw
      exact keepsBlanks_of_unquote (Option.some.inj hw)
    · exact (blank_facts_of_described h).2
  rw [hmove, htarget] at hstep
  exact
    { source := hs
      no_lead := hlead
      quotes := hq
      blanks := hk
      write := fun symbol hc => ⟨hsealed symbol hc, hblanks symbol hc⟩
      target := (step_optionLine_iff hsealed ht).mp hstep }

/-- Only a table all of whose rules survive has each of them in what is read of its text. -/
theorem survives_of_mem_reread (h : Described table)
    (hall : ∀ rule ∈ table.rules, rule ∈ reread table) : ∀ rule ∈ table.rules, Survives rule := by
  have hq : ∀ rule ∈ table.rules, ¬BothQuotes (readText rule) := fun rule hr =>
    quotes_of_mem_reread h (hall rule hr)
  have hs : ∀ rule ∈ table.rules, rule.source.toList ∉ reserved := fun rule hr =>
    source_of_mem_reread h hq (hall rule hr)
  intro rule hr
  obtain ⟨hk, line, hl, he⟩ := own_line h hall hs hq hr
  exact survives_of_own_line h hr (hs rule hr) (hq rule hr) hk hl he

end TapeMachine.Source
