import Mathlib.Data.List.Nodup
import TapeMachine.Proofs.Grouping
import TapeMachine.StateGraph.Layout

namespace TapeMachine

variable {table : Table} {rule : Rule} {state current : String}

theorem filter_eq_singleton {α : Type} [DecidableEq α] {x : α} {xs : List α} (h : xs.Nodup)
    (hx : x ∈ xs) : xs.filter (fun y => decide (y = x)) = [x] := by
  rw [List.filter_eq, List.count_eq_one_of_mem h hx, List.replicate_one]

theorem Table.mem_finalStates {states : List String} :
    state ∈ table.finalStates states ↔
      state ∈ states ∧ ∀ rule ∈ table.rules, rule.source = state → rule.move = .stay := by
  simp [finalStates]

namespace StateGraph

/-- The node of a state. -/
def nodeOf (table : Table) (current : String) (start : Text.Wording) (state : String) : Node where
  name := state
  position := placeOf (circlePositions table.states) state
  isStart := decide (start = state)
  isFinal := (table.finalStates table.states).contains state
  isActive := state == current

theorem nodes_layout (table : Table) (current : String) (start : Text.Wording) :
    (table.layout current start).nodes = table.states.map (nodeOf table current start) := rfl

/-- A state of the table is final if all rules that leave it let the head stay. -/
theorem isFinal_nodeOf (h : state ∈ table.states) (current : String) (start : Text.Wording) :
    (nodeOf table current start state).isFinal = true ↔
      ∀ rule ∈ table.rules, rule.source = state → rule.move = .stay := by
  simp [nodeOf, Table.mem_finalStates, h]

/-- The node of the present state, and no other, is active. -/
theorem active_nodes (h : current ∈ table.states) (start : Text.Wording) :
    (table.layout current start).nodes.filter Node.isActive =
      [nodeOf table current start current] := by
  have hp : Node.isActive ∘ nodeOf table current start = fun state => decide (state = current) := by
    funext state
    exact beq_eq_decide state current
  rw [nodes_layout, List.filter_map, hp, filter_eq_singleton table.nodup_states h]
  rfl

/-- The pairs of states that some rule joins, in the order of their first rules. -/
def links (rules : List Rule) : List (String × String) :=
  distinct (rules.map fun rule => (rule.source, rule.target))

def rulesAlong (rules : List Rule) (link : String × String) : List Rule :=
  rules.filter fun rule => (rule.source, rule.target) = link

def edgeAlong (table : Table) (positions : Dictionary String Point) (current : String)
    (link : String × String) : Edge :=
  edgeOf positions current (link, rulesAlong table.rules link)

/-- Gathering the rules in one pass draws the edge of every link with all rules along it. -/
theorem edges_layout (table : Table) (current : String) (start : Text.Wording) :
    (table.layout current start).edges =
      (links table.rules).map (edgeAlong table (circlePositions table.states) current) := by
  rw [Table.layout, grouped_eq, List.map_map]
  rfl

theorem nodup_links (rules : List Rule) : (links rules).Nodup :=
  distinct_nodup _

theorem mem_links_of_rule {rules : List Rule} (h : rule ∈ rules) :
    (rule.source, rule.target) ∈ links rules := by
  rw [links, mem_distinct]
  exact List.mem_map_of_mem h

/-- Whether an edge leads from one state to another. -/
def Edge.joins (edge : Edge) (link : String × String) : Bool :=
  decide ((edge.source, edge.target) = link)

/-- All rules between two states share one edge. -/
theorem edges_between (h : rule ∈ table.rules) (current : String) (start : Text.Wording) :
    (table.layout current start).edges.filter (Edge.joins · (rule.source, rule.target)) =
      [edgeAlong table (circlePositions table.states) current (rule.source, rule.target)] := by
  have hp : (Edge.joins · (rule.source, rule.target)) ∘
      edgeAlong table (circlePositions table.states) current =
        fun link => decide (link = (rule.source, rule.target)) := rfl
  rw [edges_layout, List.filter_map, hp,
    filter_eq_singleton (nodup_links _) (mem_links_of_rule h)]
  rfl

theorem mem_rulesAlong {rules : List Rule} {link : String × String} :
    rule ∈ rulesAlong rules link ↔ rule ∈ rules ∧ (rule.source, rule.target) = link := by
  simp [rulesAlong]

end StateGraph

end TapeMachine
