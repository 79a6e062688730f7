import TapeMachine.Console.Board
import TapeMachine.Grid
import TapeMachine.Source.Program

namespace TapeMachine

def StateGraph.Node.line (node : StateGraph.Node) : String :=
  s!"  {node.name} " ++ placeText node.position ++ " " ++
    " ".intercalate (flags [("start", node.isStart), ("final", node.isFinal)])

def StateGraph.Edge.line (edge : StateGraph.Edge) : String :=
  s!"  {edge.source} -> {edge.target}: {edge.label}"

namespace Program

/-- The facts about the program in a file. -/
def facts (program : Program) (path : String) : List String :=
  let table := program.table
  [s!"[INFO] Program {path}", s!"  Start state: {table.initialState}", s!"  Blank: {table.blank}",
    "  Input: " ++ String.join table.initialTape, s!"  Rules: {table.rules.length}"] ++
    program.warnings.map fun warning => "[WARNING] " ++ warning.message

/-- The state graph of a program, seen from its initial state. -/
def graphLines (program : Program) : List String :=
  let layout := program.table.layout program.table.initialState StateGraph.defaultStart
  "\n=== State Graph ===" :: layout.nodes.map StateGraph.Node.line ++
    layout.edges.map StateGraph.Edge.line

/-- All there is to say about a program, the graph if it is wanted. -/
def report (program : Program) (path : String) (withGraph : Bool) : List String :=
  program.facts path ++ program.table.inspectionLines ++
    if withGraph then program.graphLines else []

end Program

end TapeMachine
