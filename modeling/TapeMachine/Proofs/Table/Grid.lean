import TapeMachine.Grid
import TapeMachine.Proofs.Table.Precedence

namespace TapeMachine.Table

variable {table : Table} {rule : Rule} {state symbol : String} {row : List String}

/-- A rule that a look-up gives has its state and its symbol among those of the table. -/
theorem mem_of_lookup (h : table.lookup state symbol = some rule) :
    state ∈ table.states ∧ symbol ∈ table.symbols := by
  obtain ⟨hm, ha⟩ := applies_of_lookup h
  obtain ⟨hs, hr⟩ := Bool.and_eq_true_iff.mp ha
  exact ⟨mem_states.mpr ⟨rule, hm, .inl (beq_iff_eq.mp hs).symm⟩, mem_symbols.mpr ⟨rule, hm, hr⟩⟩

/-- The letter of the move tells what a rule does from the mark of a missing one. -/
theorem dashes_ne (left right : String) (move : Move) :
    left ++ move.letter.toString ++ right ≠ "---" := by
  intro h
  have hm : move.letter ∈ "---".toList := by
    rw [← h]
    simp
  cases move <;> exact absurd hm (by decide)

theorem gridCell_of_lookup (h : table.lookup state symbol = some rule) :
    table.gridCell state symbol =
      rule.write.getD symbol ++ rule.move.letter.toString ++ rule.target := by
  rw [gridCell, h]
  rfl

theorem gridCell_eq_dashes_iff :
    table.gridCell state symbol = "---" ↔ table.lookup state symbol = none := by
  cases h : table.lookup state symbol with
  | none => simp [gridCell, h]
  | some rule =>
    rw [gridCell_of_lookup h]
    simpa using dashes_ne (rule.write.getD symbol) rule.target rule.move

/-- A row is known by the state that heads it. -/
theorem eq_gridRow (hr : row ∈ table.gridRows) (hs : row.head? = some state) :
    row = table.gridRow state := by
  obtain ⟨other, _, rfl⟩ := List.mem_map.mp hr
  rw [Option.some.inj hs]

theorem head?_gridRows (table : Table) : table.gridRows.map List.head? = table.states.map some := by
  rw [gridRows, List.map_map]
  rfl

theorem getElem?_gridRow {j : Nat} (h : table.symbols[j]? = some symbol) (state : String) :
    (table.gridRow state)[j + 1]? = some (table.gridCell state symbol) := by
  rw [gridRow, List.getElem?_cons_succ, List.getElem?_map, h]
  rfl

/-- A grid whose rows begin with their states has a cell for every state and symbol on which the
table does anything, and each of its cells says what the table does there. -/
structure ShowsTransitions (table : Table) (columns : List String) (rows : List (List String)) :
    Prop where
  columns_nodup : columns.Nodup
  rows_nodup : (rows.map List.head?).Nodup
  width : ∀ row ∈ rows, row.length = columns.length + 1
  covered : ∀ state symbol rule, table.lookup state symbol = some rule →
    (∃ row ∈ rows, row.head? = some state) ∧ symbol ∈ columns
  cell : ∀ row ∈ rows, ∀ state, row.head? = some state →
    ∀ (j : Nat) (symbol : String), columns[j]? = some symbol →
      ∃ text, row[j + 1]? = some text ∧ (text = "---" ↔ table.lookup state symbol = none) ∧
        ∀ rule, table.lookup state symbol = some rule →
          text = rule.write.getD symbol ++ rule.move.letter.toString ++ rule.target

/-- The grid is the whole transition function. -/
theorem grid_shows_transitions (table : Table) :
    ShowsTransitions table table.symbols table.gridRows where
  columns_nodup := table.nodup_symbols
  rows_nodup := by
    rw [head?_gridRows]
    exact table.nodup_states.map fun _ _ => Option.some.inj
  width := by
    intro row hr
    obtain ⟨state, _, rfl⟩ := List.mem_map.mp hr
    simp [gridRow]
  covered := by
    intro state symbol rule h
    obtain ⟨hs, ha⟩ := mem_of_lookup h
    exact ⟨⟨table.gridRow state, List.mem_map_of_mem hs, rfl⟩, ha⟩
  cell := by
    intro row hr state hs j symbol hj
    rw [eq_gridRow hr hs]
    exact ⟨table.gridCell state symbol, getElem?_gridRow hj state, gridCell_eq_dashes_iff,
      fun _ => gridCell_of_lookup⟩

end TapeMachine.Table
