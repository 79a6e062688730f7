import TapeMachine.Table

namespace TapeMachine

namespace Table

/-- What the rule for a state and a symbol does, in a few characters. -/
def gridCell (table : Table) (state symbol : String) : String :=
  match table.lookup state symbol with
  | none => "---"
  | some rule => rule.leaves symbol ++ rule.move.letter.toString ++ rule.target

/-- A row begins with its state and has a cell for each symbol. -/
def gridRow (table : Table) (state : String) : List String :=
  state :: table.symbols.map (table.gridCell state)

def gridRows (table : Table) : List (List String) :=
  table.states.map table.gridRow

def latexText (text : String) : String :=
  "\\text\x7b" ++ text ++ "\x7d"

/-- The grid as a LaTeX array. -/
def latex (table : Table) : String :=
  let columns := String.ofList (List.replicate table.symbols.length 'c')
  let head := "\\begin\x7barray\x7d\x7bc|" ++ columns ++ "\x7d"
  let heading := "State/Symbol & " ++ " & ".intercalate (table.symbols.map latexText) ++
    " \\\\ \\hline"
  let row (cells : List String) := " & ".intercalate (cells.map latexText) ++ " \\\\"
  "\n".intercalate (head :: heading :: table.gridRows.map row ++ ["\\end\x7barray\x7d"])

/-- The grid with tabulators, a row on each line. -/
def gridLines (table : Table) : List String :=
  ((" " :: table.symbols) :: table.gridRows).map "\t".intercalate

/-- The grid in both forms. -/
def inspectionLines (table : Table) : List String :=
  "\n=== Transition Table ===" :: table.gridLines ++ ["\n=== LaTeX Table ===", table.latex]

def inspection (table : Table) : String :=
  String.join (table.inspectionLines.map (· ++ "\n"))

end Table

end TapeMachine
