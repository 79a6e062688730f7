import TapeMachine.Decimal.Text
import TapeMachine.Json.Basic
import TapeMachine.StateGraph.Geometry
import TapeMachine.Table

namespace TapeMachine

namespace StateGraph

structure Node where
  name : String
  position : Point
  isStart : Bool
  isFinal : Bool
  isActive : Bool

structure Edge where
  source : String
  target : String
  label : String
  isActive : Bool
  points : List Point

def Edge.isSelfLoop (edge : Edge) : Bool :=
  edge.source == edge.target

def pointText (p : Point) : String :=
  Decimal.sixDigits p.x ++ " " ++ Decimal.sixDigits p.y

/-- The path of an edge: cubic for a loop, quadratic for any other. -/
def Edge.path (edge : Edge) : String :=
  match edge.points with
  | [] => ""
  | start :: rest =>
    let command := if edge.isSelfLoop then "C" else "Q"
    "M " ++ pointText start ++ " " ++ command ++ " " ++ ", ".intercalate (rest.map pointText)

/-- The state graph of a table as it is drawn. -/
structure Layout where
  states : List String
  nodes : List Node
  edges : List Edge
  positions : Dictionary String Point

/-- The place of a state; each state of the table has one. -/
def placeOf (positions : Dictionary String Point) (state : String) : Point :=
  (positions.get? state).getD center

/-- The edge for rules that all lead from one state to another. -/
def edgeOf (positions : Dictionary String Point) (current : String)
    (group : (String × String) × List Rule) : Edge :=
  let ((source, target), rules) := group
  { source
    target
    label := ", ".intercalate (rules.map Rule.label)
    isActive := source == current
    points :=
      if source = target then selfLoop (placeOf positions source)
      else curvedEdge (placeOf positions source) (placeOf positions target) }

/-- The state drawn as the start unless another is named. -/
def defaultStart : String := "q0"

end StateGraph

open StateGraph

def Table.layout (table : Table) (current : String) (start : Text.Wording) : Layout :=
  let states := table.states
  let positions := circlePositions states
  let finals := table.finalStates states
  { states
    nodes := states.map fun state =>
      { name := state
        position := placeOf positions state
        isStart := decide (start = state)
        isFinal := finals.contains state
        isActive := state == current }
    edges := (Dictionary.grouped (fun rule => (rule.source, rule.target)) table.rules).map
      (edgeOf positions current)
    positions }

namespace StateGraph

def Node.json (node : Node) : Json :=
  .obj [("name", .str node.name), ("x", .float node.position.x), ("y", .float node.position.y),
    ("start", .bool node.isStart), ("final", .bool node.isFinal), ("active", .bool node.isActive)]

def Edge.json (edge : Edge) : Json :=
  .obj [("source", .str edge.source), ("target", .str edge.target), ("label", .str edge.label),
    ("active", .bool edge.isActive), ("path", .str edge.path)]

def Layout.json (layout : Layout) : Json :=
  .obj [("states", .arr (layout.states.map .str)), ("nodes", .arr (layout.nodes.map Node.json)),
    ("edges", .arr (layout.edges.map Edge.json))]

end StateGraph

end TapeMachine
