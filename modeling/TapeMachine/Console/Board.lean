import TapeMachine.Console.Desk
import TapeMachine.StateGraph.Layout
import TapeMachine.Window

namespace TapeMachine

open Console

/-- A machine as it is shown: the tape in view, and what there is to say about the run. -/
def Machine.board (machine : Machine) (window : Int) : Except ViewError Shown :=
  (machine.render window).map fun tape =>
    let c := machine.configuration
    let lines := [tape, s!"Position: {c.head}", s!"Current State: {c.state}   Steps: {c.steps}"]
    let complete := if c.halted then ["Computation Complete"] else []
    let error := machine.error.toList.map fun missing => "Error: " ++ missing.message
    .table none none ((lines ++ complete ++ error).map fun line => [visible line])

namespace StateGraph

def placeText (p : Point) : String :=
  "(" ++ Decimal.fixed 1 p.x ++ ", " ++ Decimal.fixed 1 p.y ++ ")"

/-- The words for what is true. -/
def flags (words : List (String × Bool)) : List String :=
  (words.filter Prod.snd).map Prod.fst

def Node.row (node : Node) : List String :=
  [visible node.name, placeText node.position,
    ", ".intercalate (flags [("start", node.isStart), ("final", node.isFinal),
      ("active", node.isActive)])]

def Edge.row (edge : Edge) : List String :=
  [visible (edge.source ++ " -> " ++ edge.target), visible edge.label]

/-- A graph as it is shown: a table of its nodes and one of its edges. -/
def Layout.boards (layout : Layout) : List Shown :=
  [.table (some "State Graph") (some ["State", "Position", "Flags"]) (layout.nodes.map Node.row),
    .table none (some ["Edge", "Label"]) (layout.edges.map Edge.row)]

end StateGraph

end TapeMachine
