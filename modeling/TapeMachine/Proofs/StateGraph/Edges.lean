import Mathlib.Algebra.GroupWithZero.Nat
import TapeMachine.Proofs.Grouping
import TapeMachine.Proofs.StateGraph.Layout

namespace TapeMachine.StateGraph

variable {table : Table} {rule : Rule} {edge : Edge} {state current : String}
variable {start : Text.Wording}

/-- No name is without a place, and a name that comes twice has one of its two. -/
theorem isSome_circlePositions {names : List String} (h : state ∈ names) :
    ((circlePositions names).get? state).isSome := by
  obtain ⟨i, hi⟩ := List.mem_iff_getElem?.mp h
  have hm : (state, i) ∈ names.zipIdx := List.mk_mem_zipIdx_iff_getElem?.mpr hi
  exact Dictionary.isSome_get?_setAll
    (.inr ⟨_, List.mem_map_of_mem hm, beq_self_eq_true state⟩)

theorem get?_placeOf {names : List String} (h : state ∈ names) :
    (circlePositions names).get? state = some (placeOf (circlePositions names) state) := by
  obtain ⟨place, hp⟩ := Option.isSome_iff_exists.mp (isSome_circlePositions h)
  rw [placeOf, hp, Option.getD_some]

theorem mem_states_of_mem_links {link : String × String} (h : link ∈ links table.rules) :
    link.1 ∈ table.states ∧ link.2 ∈ table.states := by
  obtain ⟨rule, hr, rfl⟩ := List.mem_map.mp (mem_distinct.mp h)
  exact ⟨Table.mem_states.mpr ⟨rule, hr, .inl rfl⟩, Table.mem_states.mpr ⟨rule, hr, .inr rfl⟩⟩

def Edge.link (edge : Edge) : String × String :=
  (edge.source, edge.target)

/-- The rules that an edge is drawn for. -/
def Edge.rules (edge : Edge) (table : Table) : List Rule :=
  rulesAlong table.rules edge.link

theorem map_link_edges (table : Table) (current : String) (start : Text.Wording) :
    (table.layout current start).edges.map Edge.link = links table.rules := by
  rw [edges_layout, List.map_map]
  exact List.map_id _

theorem exists_link_of_mem_edges (h : edge ∈ (table.layout current start).edges) :
    ∃ link ∈ links table.rules,
      edgeAlong table (circlePositions table.states) current link = edge := by
  rw [edges_layout] at h
  exact List.mem_map.mp h

theorem map_name_nodes (table : Table) (current : String) (start : Text.Wording) :
    (table.layout current start).nodes.map Node.name = table.states := by
  rw [nodes_layout, List.map_map]
  exact List.map_id _

/-- The rules along all edges are the rules of the table. -/
theorem flatMap_rules_edges (table : Table) (current : String) (start : Text.Wording) :
    ((table.layout current start).edges.flatMap (Edge.rules · table)).Perm table.rules := by
  have hp := flatMap_distinct_perm (fun rule : Rule => (rule.source, rule.target)) table.rules
  rwa [edges_layout, List.flatMap_map]

/-- A drawing of a table that gives each of its states one node and each of its rules one edge. -/
structure Layout.Partitions (layout : Layout) (table : Table) (current : String) : Prop where
  states : layout.nodes.map Node.name = layout.states
  nodes : FirstOrder (table.rules.flatMap fun rule => [rule.source, rule.target]) layout.states
  placed : ∀ node ∈ layout.nodes, layout.positions.get? node.name = some node.position
  links : FirstOrder (table.rules.map fun rule => (rule.source, rule.target))
    (layout.edges.map Edge.link)
  /-- An edge leads from node to node. -/
  ends : ∀ edge ∈ layout.edges, ∃ source ∈ layout.nodes, ∃ target ∈ layout.nodes,
    edge.link = (source.name, target.name) ∧
      edge.points = if source.name = target.name then selfLoop source.position
        else curvedEdge source.position target.position
  label : ∀ edge ∈ layout.edges,
    edge.label = ", ".intercalate ((edge.rules table).map Rule.label)
  once : ∀ rule ∈ table.rules, ∃ edge,
    layout.edges.filter (fun edge => rule ∈ edge.rules table) = [edge]
  count : (layout.edges.map fun edge => (edge.rules table).length).sum = table.rules.length
  active : ∀ edge ∈ layout.edges, edge.isActive = true ↔ edge.source = current
  final : ∀ node ∈ layout.nodes, node.isFinal = true ↔
    ∀ rule ∈ table.rules, rule.source = node.name → rule.move = .stay

theorem edges_of_rule (h : rule ∈ table.rules) (current : String) (start : Text.Wording) :
    ∃ edge, (table.layout current start).edges.filter (fun edge => rule ∈ edge.rules table) =
      [edge] := by
  refine ⟨_, Eq.trans (List.filter_congr fun edge _ => ?_) (edges_between h current start)⟩
  rw [Edge.joins, decide_eq_decide, Edge.rules, mem_rulesAlong]
  exact ⟨fun hr => hr.2.symm, fun hl => ⟨h, hl.symm⟩⟩

/-- The edges of the state graph partition the rules of the table. -/
theorem layout_partitions_rules (table : Table) (current : String) (start : Text.Wording) :
    (table.layout current start).Partitions table current where
  states := map_name_nodes table current start
  nodes := firstOrder_distinct _
  placed := by
    intro node hn
    obtain ⟨state, hs, rfl⟩ := List.mem_map.mp hn
    exact get?_placeOf hs
  links := by
    rw [map_link_edges]
    exact firstOrder_distinct _
  ends := by
    intro edge he
    obtain ⟨link, hl, rfl⟩ := exists_link_of_mem_edges he
    obtain ⟨hs, ht⟩ := mem_states_of_mem_links hl
    exact ⟨nodeOf table current start link.1, List.mem_map_of_mem hs,
      nodeOf table current start link.2, List.mem_map_of_mem ht, rfl, rfl⟩
  label := by
    intro edge he
    obtain ⟨link, _, rfl⟩ := exists_link_of_mem_edges he
    rfl
  once := fun _ hr => edges_of_rule hr current start
  count := by
    have hl := (flatMap_rules_edges table current start).length_eq
    rwa [List.length_flatMap] at hl
  active := by
    intro edge he
    obtain ⟨link, _, rfl⟩ := exists_link_of_mem_edges he
    exact beq_iff_eq
  final := by
    intro node hn
    obtain ⟨state, hs, rfl⟩ := List.mem_map.mp hn
    exact isFinal_nodeOf hs current start

end TapeMachine.StateGraph
