import TapeMachine.Proofs.Source.Survival

namespace TapeMachine.Source

open Text Table

variable {text name : List Char} {rule : Rule} {table : Table}

/-- A symbol that the line of a rule can hold whatever the rule does with it. -/
structure WritableSymbol (text : List Char) : Prop where
  ne_nil : text ≠ []
  one_line : ∀ c ∈ text, isLineEnd c = false
  quotes : ¬BothQuotes text
  blanks : KeepsBlanks text

/-- A name that means itself without quotes. -/
structure WritableName (name : List Char) : Prop where
  ne_nil : name ≠ []
  no_blank : ∀ c ∈ name, isBlank c = false
  no_special : ∀ c ∈ name, isSpecial c = false

theorem writableSymbol_iff :
    WritableSymbol text ↔ text ≠ [] ∧ text.all (fun c => !isLineEnd c) = true ∧
      ¬BothQuotes text ∧ KeepsBlanks text :=
  ⟨fun h => ⟨h.ne_nil, by simpa using h.one_line, h.quotes, h.blanks⟩,
    fun ⟨hn, hl, hq, hb⟩ => ⟨hn, forall_eq_false_of_all hl, hq, hb⟩⟩

instance : DecidablePred WritableSymbol := fun _ => decidable_of_iff' _ writableSymbol_iff

theorem writableName_iff :
    WritableName name ↔ name ≠ [] ∧ name.all (fun c => !isBlank c) = true ∧
      name.all (fun c => !isSpecial c) = true :=
  ⟨fun h => ⟨h.ne_nil, by simpa using h.no_blank, by simpa using h.no_special⟩,
    fun ⟨hn, hb, hs⟩ => ⟨hn, forall_eq_false_of_all hb, forall_eq_false_of_all hs⟩⟩

instance : DecidablePred WritableName := fun _ => decidable_of_iff' _ writableName_iff

/-- A rule in the written format, on one symbol or several. -/
structure LegibleRule (rule : Rule) : Prop where
  source : WritableName rule.source.toList
  source_free : rule.source ∉ ["input", "blank", "table"]
  reads : rule.read.members ≠ []
  symbols : ∀ a ∈ rule.read.members, WritableSymbol a.toList
  symbol_free : ∀ a, rule.read = .one a → a ∉ ["input", "blank", "start state"]
  write : ∀ w, rule.write = some w → WritableSymbol w.toList
  target : WritableName rule.target.toList

/-- A rule on one symbol in the written format. -/
structure WritableRule (rule : Rule) : Prop where
  source : WritableName rule.source.toList
  source_free : rule.source ∉ ["input", "blank", "table"]
  symbols : ∃ a w, rule.read = .one a ∧ rule.write = some w ∧
    WritableSymbol a.toList ∧ a ∉ ["input", "blank", "start state"] ∧ WritableSymbol w.toList
  target : WritableName rule.target.toList

/-- A table all of which can be written down. -/
structure Writable (table : Table) : Prop where
  rules : ∀ rule ∈ table.rules, WritableRule rule
  keys : (table.rules.map Rule.key).Nodup
  initialState : table.initialState.toList ≠ [] ∧ ∀ c ∈ table.initialState.toList, isWord c = true
  blank : ∃ c, table.blank = c.toString ∧ Plain c
  initialTape : ∃ tape : List Char, table.initialTape = tape.map Char.toString ∧ tape ≠ [] ∧
    ∀ c ∈ tape, Plain c

theorem WritableName.stateName (h : WritableName name) : StateName name where
  ne_nil := h.ne_nil
  trimmed := trim_eq_self_iff.mpr
    ⟨fun c hc => h.no_blank c (List.mem_of_head? hc),
      fun c hc => h.no_blank c (List.mem_of_getLast? hc)⟩
  no_brace := not_mem_of_not_special h.no_special (by decide)
  uncommented := stripComment_of_not_mem (not_mem_of_not_special h.no_special (by decide))
  no_lead := by
    intro lead _ hp
    have hn : ':' ∉ name := not_mem_of_not_special h.no_special (by decide)
    exact hn (hp.subset (by simp))
  one_line := fun c hc => isLineEnd_of_not_blank (h.no_blank c hc)

theorem WritableName.targetName (h : WritableName name) : TargetName name where
  ne_nil := h.ne_nil
  no_blank := h.no_blank
  no_comma := find?_of_not_mem (not_mem_of_not_special h.no_special (by decide))
  no_brace := find?_of_not_mem (not_mem_of_not_special h.no_special (by decide))

theorem WritableName.isSealed (h : WritableName name) : Sealed name where
  uncommented := stripComment_of_not_mem (not_mem_of_not_special h.no_special (by decide))
  no_comma := h.targetName.no_comma
  no_brace := h.targetName.no_brace
  closed := openAfter_of_no_quote fun c hc => isQuote_of_not_special (h.no_special c hc)

theorem WritableName.not_reserved (h : WritableName name)
    (hf : String.ofList name ∉ ["input", "blank", "table"]) : name ∉ reserved := by
  intro hm
  simp only [reserved, leads, List.mem_cons, List.not_mem_nil, or_false] at hm
  rcases hm with rfl | rfl | rfl | rfl
  · exact hf (by decide)
  · exact hf (by decide)
  · exact hf (by decide)
  · exact absurd (h.no_blank ' ' (by decide)) (by decide)

theorem WritableRule.described (h : WritableRule rule) : DescribedRule rule where
  source := h.source.stateName
  symbols := by
    obtain ⟨a, w, ha, hw, hsa, _, hsw⟩ := h.symbols
    exact ⟨a, w, ha, hw, ⟨hsa.ne_nil, hsa.one_line⟩, ⟨hsw.ne_nil, hsw.one_line⟩⟩
  target := h.target.targetName

theorem LegibleRule.written (h : LegibleRule rule) {symbol : List Char}
    (he : clauseText rule = some symbol) : Sealed (writeSymbol symbol) ∧ KeepsBlanks symbol := by
  obtain ⟨w, hw, _, rfl⟩ := clauseText_eq_some he
  have hs := h.write w hw
  exact ⟨sealed_writeSymbol hs.quotes, hs.blanks⟩

theorem LegibleRule.survives {a : String} (h : LegibleRule rule) (ha : rule.read = .one a) :
    Survives rule := by
  have hs : WritableSymbol a.toList := h.symbols a (by simp [ha, Pattern.members])
  have hr : readText rule = a.toList := by rw [readText, ha]
  have hlead : a.toList ∉ leads := by
    intro hm
    simp only [leads, List.mem_cons, List.not_mem_nil, or_false, String.toList_inj] at hm
    exact h.symbol_free a ha (by simpa using hm)
  exact
    { source := h.source.not_reserved (by rw [String.ofList_toList]; exact h.source_free)
      no_lead := by rwa [hr]
      quotes := by rw [hr]; exact hs.quotes
      blanks := by rw [hr]; exact hs.blanks
      write := fun _ => h.written
      target := h.target.isSealed }

theorem WritableRule.survives (h : WritableRule rule) : Survives rule := by
  obtain ⟨a, w, ha, hw, hsa, hfree, hsw⟩ := h.symbols
  have hl : LegibleRule rule :=
    { source := h.source
      source_free := h.source_free
      reads := by simp [ha, Pattern.members]
      symbols := by simpa [ha, Pattern.members] using hsa
      symbol_free := fun b hb => Pattern.one.inj (ha.symm.trans hb) ▸ hfree
      write := fun b hb => Option.some.inj (hw.symm.trans hb) ▸ hsw
      target := h.target }
  exact hl.survives ha

theorem Writable.described (h : Writable table) : Described table where
  initialState := h.initialState
  blank := h.blank
  initialTape := h.initialTape
  rules := fun rule hr => (h.rules rule hr).described
  exact :=
    { one := fun rule hr => by
        obtain ⟨a, _, ha, _⟩ := (h.rules rule hr).symbols
        exact ⟨a, ha⟩
      nodup := h.keys }

/-- A table that can be written down is read back from its text without a warning, with its rules
state by state. -/
theorem ofText_source_of_writable (h : Writable table) :
    Program.ofText table.source =
      { table := { table with rules := regroup table.rules }, warnings := [] } :=
  ofText_source_of_survives h.described fun rule hr => (h.rules rule hr).survives

/-- Two states whose rules alternate, on symbols that need every kind of quoting. -/
def quotingTable : Table where
  rules :=
    [⟨"q0", .one "#", some " ", .right, "q1"⟩,
      ⟨"q1", .one "'", some "\",\x7d", .left, "q0"⟩,
      ⟨"q0", .one "a b", some "a b", .stay, "done"⟩,
      ⟨"q1", .one " :", some "]", .right, "q1"⟩]
  initialState := "q0"
  blank := "#"
  initialTape := ["1", " "]

theorem writable_quotingTable : Writable quotingTable where
  rules := by
    intro rule hr
    simp only [quotingTable, List.mem_cons, List.not_mem_nil, or_false] at hr
    rcases hr with rfl | rfl | rfl | rfl <;>
      exact ⟨by decide, by decide, ⟨_, _, rfl, rfl, by decide, by decide, by decide⟩, by decide⟩
  keys := by decide
  initialState := ⟨by decide, List.all_eq_true.mp (by decide)⟩
  blank := ⟨'#', rfl, by decide, by decide⟩
  initialTape := by
    refine ⟨['1', ' '], rfl, by decide, fun c hc => ?_⟩
    exact ⟨forall_eq_false_of_all (by decide) c hc, forall_eq_false_of_all (by decide) c hc⟩

theorem ofText_source_quotingTable :
    Writable quotingTable ∧
      Program.ofText quotingTable.source =
        { table := { quotingTable with
            rules :=
              [⟨"q0", .one "#", some " ", .right, "q1"⟩,
                ⟨"q0", .one "a b", some "a b", .stay, "done"⟩,
                ⟨"q1", .one "'", some "\",\x7d", .left, "q0"⟩,
                ⟨"q1", .one " :", some "]", .right, "q1"⟩] }
          warnings := [] } := by
  refine ⟨writable_quotingTable, (ofText_source_of_writable writable_quotingTable).trans ?_⟩
  have hr : regroup quotingTable.rules =
      [⟨"q0", .one "#", some " ", .right, "q1"⟩, ⟨"q0", .one "a b", some "a b", .stay, "done"⟩,
        ⟨"q1", .one "'", some "\",\x7d", .left, "q0"⟩,
        ⟨"q1", .one " :", some "]", .right, "q1"⟩] := by
    decide
  rw [hr]

end TapeMachine.Source
