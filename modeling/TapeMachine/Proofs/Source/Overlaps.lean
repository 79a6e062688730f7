import TapeMachine.Proofs.Source.Collections

namespace TapeMachine.Source

open Text Table

variable {text : String} {rule : Rule} {table : Table}

/-- A word that the format does not use itself. -/
structure PlainWord (text : String) : Prop where
  ne_empty : text ≠ ""
  word : ∀ c ∈ text.toList, isWord c = true
  free : text ∉ ["input", "blank", "table"]

theorem plainWord_iff :
    PlainWord text ↔ text ≠ "" ∧ text.toList.all isWord = true ∧
      text ∉ ["input", "blank", "table"] :=
  ⟨fun h => ⟨h.ne_empty, List.all_eq_true.mpr h.word, h.free⟩,
    fun ⟨hn, hw, hf⟩ => ⟨hn, List.all_eq_true.mp hw, hf⟩⟩

instance : DecidablePred PlainWord := fun _ => decidable_of_iff' _ plainWord_iff

/-- A rule that reads and writes plain words. -/
structure WordRule (rule : Rule) : Prop where
  source : PlainWord rule.source
  reads : rule.read.members ≠ []
  symbols : ∀ a ∈ rule.read.members, PlainWord a
  write : ∀ w, rule.write = some w → PlainWord w
  target : PlainWord rule.target

/-- A table of plain words. Its rules may overlap, and its tape may be empty. -/
structure WordTable (table : Table) : Prop where
  rules : ∀ rule ∈ table.rules, WordRule rule
  initialState : PlainWord table.initialState
  blank : ∃ c, table.blank = c.toString ∧ isWord c = true
  initialTape : ∃ tape : List Char, table.initialTape = tape.map Char.toString ∧
    ∀ c ∈ tape, isWord c = true

theorem isSpecial_of_isWord {c : Char} (h : isWord c = true) : isSpecial c = false := by
  cases hs : isSpecial c with
  | false => rfl
  | true =>
    have hn : ∀ d ∈ "[]\x7b\x7d:,#'\"".toList, isWord d = false :=
      forall_eq_false_of_all (by decide)
    simp [hn c (List.contains_iff_mem.mp hs)] at h

theorem plain_of_isWord {c : Char} (h : isWord c = true) : Plain c :=
  ⟨isQuote_of_not_special (isSpecial_of_isWord h), isLineEnd_of_not_blank (isBlank_of_isWord h)⟩

theorem PlainWord.name (h : PlainWord text) : WritableName text.toList where
  ne_nil := by simpa using h.ne_empty
  no_blank := fun c hc => isBlank_of_isWord (h.word c hc)
  no_special := fun c hc => isSpecial_of_isWord (h.word c hc)

theorem PlainWord.symbol (h : PlainWord text) : WritableSymbol text.toList where
  ne_nil := h.name.ne_nil
  one_line := h.name.stateName.one_line
  quotes := fun hb => not_mem_of_not_special h.name.no_special (by decide) hb.1
  blanks := .inl h.name.stateName.trimmed

theorem WordRule.legible (h : WordRule rule) : LegibleRule rule where
  source := h.source.name
  source_free := h.source.free
  reads := h.reads
  symbols := fun a ha => (h.symbols a ha).symbol
  symbol_free := by
    intro a ha
    have hw : PlainWord a := h.symbols a (by simp [ha, Pattern.members])
    have hs : a ≠ "start state" := by
      rintro rfl
      exact absurd (hw.word ' ' (by decide)) (by decide)
    have hf := hw.free
    simp only [List.mem_cons, List.not_mem_nil, or_false, not_or] at hf ⊢
    exact ⟨hf.1, hf.2.1, hs⟩
  write := fun w hw => (h.write w hw).symbol
  target := h.target.name

theorem WordTable.legible (h : WordTable table) : Legible table where
  declared :=
    { initialState := ⟨h.initialState.name.ne_nil, h.initialState.word⟩
      blank := by
        obtain ⟨c, hb, hc⟩ := h.blank
        exact ⟨c, hb, plain_of_isWord hc⟩
      initialTape := by
        obtain ⟨tape, ht, hc⟩ := h.initialTape
        exact ⟨tape, ht, fun c hm => plain_of_isWord (hc c hm)⟩ }
  rules := fun rule hr => (h.rules rule hr).legible

/-- The text of a table of words gives a symbol to the last rule that covers it in the state, where
the table gives it to the first on the symbol alone or else to the first that covers it. So both
have rules for the same symbols, and do the same on a symbol exactly where the last rule that
covers it does what the selected one does. -/
theorem lookup_ofText_source_of_words (h : WordTable table) (state symbol : String) :
    let other := (Program.ofText table.source).table
    other.lookup state symbol =
        (lastFor state symbol table.rules).map (fun rule => rule.exactly symbol) ∧
      (other.lookup state symbol = none ↔ table.lookup state symbol = none) ∧
      ((other.lookup state symbol).map (fun rule => rule.effect symbol) =
          (table.lookup state symbol).map (fun rule => rule.effect symbol) ↔
        ∀ last selected, lastFor state symbol table.rules = some last →
          table.lookup state symbol = some selected → last.effect symbol = selected.effect symbol) := by
  intro other
  have hl : other.lookup state symbol =
      (lastFor state symbol table.rules).map fun rule => rule.exactly symbol :=
    lookup_source_of_legible h.legible state symbol
  have hn : lastFor state symbol table.rules = none ↔ table.lookup state symbol = none :=
    lastFor_eq_none_iff
  refine ⟨hl, by rw [hl, Option.map_eq_none_iff, hn], ?_⟩
  rw [hl, Option.map_map]
  cases hlast : lastFor state symbol table.rules with
  | none => simp [hn.mp hlast]
  | some last =>
    cases hs : table.lookup state symbol with
    | none => simp [hn.mpr hs] at hlast
    | some selected => simp [Rule.effect_exactly]

/-- A rule on one symbol, and below it a rule on a set with the same symbol. -/
def overlapTable : Table where
  rules :=
    [⟨"q", .one "a", some "x", .right, "p"⟩, ⟨"q", .set ["a", "b"], none, .left, "q"⟩]
  initialState := "q"
  initialTape := ["a"]

theorem wordTable_overlapTable : WordTable overlapTable where
  rules := by
    intro rule hr
    simp only [overlapTable, List.mem_cons, List.not_mem_nil, or_false] at hr
    rcases hr with rfl | rfl
    · have hw : ∀ w, some "x" = some w → PlainWord w := by
        rintro w ⟨⟩
        decide
      exact ⟨by decide, by decide, by decide, hw, by decide⟩
    · have ha : "a" ∈ Pattern.members (.set ["a", "b"]) := Pattern.mem_members.mpr rfl
      refine ⟨by decide, List.ne_nil_of_mem ha, fun a hm => ?_, by simp, by decide⟩
      have hab : a = "a" ∨ a = "b" := by
        simpa [Pattern.reads] using Pattern.mem_members.mp hm
      rcases hab with rfl | rfl <;> decide
  initialState := by decide
  blank := ⟨'_', rfl, by decide⟩
  initialTape := ⟨['a'], rfl, List.all_eq_true.mp (by decide)⟩

theorem lookup_ofText_source_overlapTable_b :
    WordTable overlapTable ∧
      (Program.ofText overlapTable.source).table.lookup "q" "b" =
        some ⟨"q", .one "b", some "b", .left, "q"⟩ := by
  refine ⟨wordTable_overlapTable, ?_⟩
  exact (lookup_ofText_source_of_words wordTable_overlapTable "q" "b").1.trans rfl

/-- In the text of the table the set comes last and takes the symbol of the rule above it. -/
theorem lookup_ofText_source_overlapTable_a :
    WordTable overlapTable ∧
      overlapTable.lookup "q" "a" = some ⟨"q", .one "a", some "x", .right, "p"⟩ ∧
      (Program.ofText overlapTable.source).table.lookup "q" "a" =
        some ⟨"q", .one "a", some "a", .left, "q"⟩ := by
  refine ⟨wordTable_overlapTable, rfl, ?_⟩
  exact (lookup_source_of_legible wordTable_overlapTable.legible "q" "a").trans rfl

end TapeMachine.Source
