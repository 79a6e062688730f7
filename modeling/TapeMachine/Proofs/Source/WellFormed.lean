import TapeMachine.Proofs.Source.Described
import TapeMachine.Proofs.Source.Strict

namespace TapeMachine

open Text Source

/-- A rule that reads one symbol and writes one, and whose names can stand in a text. -/
structure Rule.WellFormed (rule : Rule) : Prop where
  source_ne : rule.source ≠ ""
  source_trimmed : trim rule.source.toList = rule.source.toList
  source_no_brace : '{' ∉ rule.source.toList
  target_ne : rule.target ≠ ""
  target_no_blank : ∀ c ∈ rule.target.toList, isBlank c = false
  symbols : ∃ read written, rule.read = .one read ∧ rule.write = some written ∧
    read ≠ "" ∧ written ≠ "" ∧ ∀ c ∈ read.toList ++ written.toList, isLineEnd c = false
  one_line : ∀ c ∈ rule.source.toList ++ rule.target.toList, isLineEnd c = false

/-- A table that the machine, the writer and the grid can rely on. -/
structure Table.WellFormed (table : Table) : Prop where
  rules : ∀ rule ∈ table.rules, rule.WellFormed
  keys : (table.rules.map Rule.key).Nodup
  blank : ∃ c, table.blank = c.toString ∧ Plain c
  initialTape_ne : table.initialTape ≠ []
  initialTape : ∀ symbol ∈ table.initialTape, ∃ c : Char, symbol = c.toString ∧ Plain c
  initialState_ne : table.initialState ≠ ""
  initialState : ∀ c ∈ table.initialState.toList, isWord c = true ∧ isLineEnd c = false

namespace Source

variable {table : Table} {rule : Rule}

theorem ne_empty_of_toList {text : String} (h : text.toList ≠ []) : text ≠ "" := by
  rintro rfl
  exact h rfl

theorem DescribedRule.wellFormed (h : DescribedRule rule) : rule.WellFormed := by
  obtain ⟨read, written, hr, hw, hread, hwritten⟩ := h.symbols
  have htarget : ∀ c ∈ rule.target.toList, isLineEnd c = false := fun c hc =>
    isLineEnd_of_not_blank (h.target.no_blank c hc)
  exact
    { source_ne := ne_empty_of_toList h.source.ne_nil
      source_trimmed := h.source.trimmed
      source_no_brace := h.source.no_brace
      target_ne := ne_empty_of_toList h.target.ne_nil
      target_no_blank := h.target.no_blank
      symbols := ⟨read, written, hr, hw, ne_empty_of_toList hread.ne_nil,
        ne_empty_of_toList hwritten.ne_nil,
        List.forall_mem_append.mpr ⟨hread.one_line, hwritten.one_line⟩⟩
      one_line := List.forall_mem_append.mpr ⟨h.source.one_line, htarget⟩ }

theorem Described.wellFormed (h : Described table) : table.WellFormed := by
  obtain ⟨tape, ht, hne, hplain⟩ := h.initialTape
  exact
    { rules := fun rule hr => (h.rules rule hr).wellFormed
      keys := h.exact.nodup
      blank := h.blank
      initialTape_ne := by
        rw [ht]
        simpa using hne
      initialTape := by
        rw [ht]
        intro symbol hs
        obtain ⟨c, hc, rfl⟩ := List.mem_map.mp hs
        exact ⟨c, rfl, hplain c hc⟩
      initialState_ne := ne_empty_of_toList h.initialState.1
      initialState := fun c hc =>
        have hw := h.initialState.2 c hc
        ⟨hw, isLineEnd_of_not_blank (isBlank_of_isWord hw)⟩ }

/-- Every text is read to its end, and into a well-formed table. -/
theorem ofText_wellFormed (text : String) :
    Program.ofTextStrictly text = .ok (Program.ofText text) ∧
      (Program.ofText text).table.WellFormed :=
  ⟨ofTextStrictly_eq text, (described_ofText text).wellFormed⟩

end Source

end TapeMachine
