import TapeMachine.Proofs.Configuration.Trace
import TapeMachine.Proofs.Machine.Calls
import TapeMachine.Proofs.StateGraph.Layout

namespace TapeMachine

variable {table : Table} {rule : Rule}

namespace Configuration

variable {c : Configuration}

theorem halted_fire_of_stay (h : rule.move = .stay) (c : Configuration) (blank : String) :
    (c.fire rule blank).halted = true := by
  simp [fire, h]

/-- A transition after which none is possible is the last. -/
theorem steps_after_le (h : (c.advance table).advance table = c.advance table)
    (hs : (c.advance table).steps ≤ c.steps + 1) (n : Nat) :
    (c.after table n).steps ≤ c.steps + 1 := by
  cases n with
  | zero => exact Int.le_add_one (Int.le_refl _)
  | succ n =>
    have hn : c.after table (n + 1) = c.advance table := by
      rw [after, Function.iterate_succ_apply]
      exact after_of_advance_eq h n
    rwa [hn]

end Configuration

namespace Machine

variable {machine fresh : Machine}

/-- Once a step has been made, the state is one that the table names. -/
structure Arrived (table : Table) (machine : Machine) : Prop where
  table_eq : machine.table = table
  state : machine.configuration.steps = 0 ∨ machine.configuration.state ∈ table.states

theorem arrived_ofTable? (h : ofTable? table = some fresh) : fresh.Arrived table := by
  obtain ⟨start, hs, rfl⟩ := ofTable?_eq_some h
  refine ⟨rfl, .inl ?_⟩
  rw [Configuration.start?_eq_some hs]

theorem Arrived.step (h : machine.Arrived table) : machine.step.2.Arrived table := by
  obtain ⟨_, hs⟩ | ⟨missing, _, _, hs⟩ | ⟨rule, _, hr, hs⟩ := step_cases machine
  · rw [hs]
    exact ⟨h.table_eq, h.state⟩
  · rw [hs]
    exact ⟨h.table_eq, h.state⟩
  · rw [hs]
    rw [h.table_eq] at hr
    obtain ⟨hm, _⟩ := Configuration.applies_of_rule? hr
    exact ⟨h.table_eq, .inr (Table.mem_states.mpr ⟨rule, hm, .inr rfl⟩)⟩

theorem arrived_afterCalls (h : ofTable? table = some fresh) (calls : List Call) :
    (fresh.afterCalls calls).Arrived table :=
  afterCalls_invariant h (fun _ hp => hp.table_eq) (fun _ hp => hp.step) (arrived_ofTable? h) calls

/-- What a step comes to in a state that only rules without a move leave. -/
theorem last_step (ht : machine.table = table) (hh : machine.halted = false)
    (hf : ∀ rule ∈ table.rules, rule.source = machine.configuration.state → rule.move = .stay) :
    machine.step.1 = true ∧ machine.step.2.halted = true ∨
      ∃ missing, machine.configuration.rule? table = .error missing := by
  subst ht
  obtain ⟨hc, _⟩ | ⟨missing, _, hr, _⟩ | ⟨rule, _, hr, hs⟩ := step_cases machine
  · simp [hc] at hh
  · exact .inr ⟨missing, hr⟩
  · obtain ⟨hm, hsource⟩ := Configuration.applies_of_rule? hr
    rw [hs]
    exact .inl ⟨rfl, Configuration.halted_fire_of_stay (hf rule hm hsource) _ _⟩

end Machine

namespace Configuration

variable {c : Configuration}

/-- From such a state at most one more transition is made, however often one is tried. -/
theorem OnTape.steps_after_le_of_final (on : c.OnTape) (hh : c.halted = false)
    (hf : ∀ rule ∈ table.rules, rule.source = c.state → rule.move = .stay) (n : Nat) :
    (c.after table n).steps ≤ c.steps + 1 := by
  obtain ⟨hc, _⟩ | ⟨missing, _, hr, _⟩ | ⟨rule, _, hr, hs⟩ := on.step_cases table
  · simp [hc] at hh
  · have ha := advance_of_missing hh hr
    exact steps_after_le (by rw [ha, ha]) (by rw [ha]; omega) n
  · obtain ⟨hm, hsource⟩ := applies_of_rule? hr
    have ha : c.advance table = c.fire rule table.blank := by
      rw [Configuration.advance, hs]
    have hl := halted_fire_of_stay (hf rule hm hsource) c table.blank
    exact steps_after_le (by rw [ha, advance_of_halted hl]) (by rw [ha]; exact Int.le_refl _) n

end Configuration

namespace StateGraph

/-- What a state graph shows of a machine that stands in the active state. -/
structure ShowsStand (layout : Layout) (table : Table) (machine : Machine) : Prop where
  /-- The only active node is the one of the present state. If it is marked as final, the next step
  is the last or finds no rule. -/
  node : ∃ node, layout.nodes.filter Node.isActive = [node] ∧
    node.name = machine.configuration.state ∧
    (node.isFinal = true → machine.halted = false →
      (machine.step.1 = true ∧ machine.step.2.halted = true ∨
        ∃ missing, machine.configuration.rule? table = .error missing) ∧
      ∀ n, (machine.configuration.after table n).steps ≤ machine.configuration.steps + 1)
  /-- A step follows the only edge to the state that it leads to. -/
  edge : machine.step.1 = true → ∃ rule edge,
    machine.configuration.rule? table = .ok rule ∧
    layout.edges.filter (Edge.joins ·
      (machine.configuration.state, machine.step.2.configuration.state)) = [edge] ∧
    edge.isActive = true ∧
    edge.label = ", ".intercalate ((rulesAlong table.rules (edge.source, edge.target)).map
      Rule.label) ∧
    rule ∈ rulesAlong table.rules (edge.source, edge.target)

theorem showsStand_layout {machine : Machine} (ha : machine.Arrived table)
    (hs : machine.Sound table) (hpos : 0 < machine.configuration.steps) (start : Text.Wording) :
    ShowsStand (table.layout machine.configuration.state start) table machine where
  node := by
    have hm := ha.state.resolve_left (by omega)
    refine ⟨_, active_nodes hm start, rfl, fun hf hh => ?_⟩
    rw [isFinal_nodeOf hm] at hf
    exact ⟨Machine.last_step ha.table_eq hh hf, hs.onTape.steps_after_le_of_final hh hf⟩
  edge := by
    intro hstep
    obtain ⟨_, he⟩ | ⟨missing, _, _, he⟩ | ⟨rule, _, hr, he⟩ := Machine.step_cases machine
    · simp [he] at hstep
    · simp [he] at hstep
    · rw [ha.table_eq] at hr
      obtain ⟨hm, hsource⟩ := Configuration.applies_of_rule? hr
      have hnext : machine.step.2.configuration.state = rule.target := by
        rw [he]
        rfl
      refine ⟨rule, edgeAlong table (circlePositions table.states) machine.configuration.state
        (rule.source, rule.target), hr, ?_, beq_iff_eq.mpr hsource, rfl,
        mem_rulesAlong.mpr ⟨hm, rfl⟩⟩
      rw [hnext, ← hsource]
      exact edges_between hm _ start

/-- However a machine has come where it stands, once it has made a step the state graph shows it in
its state, and shows the edge along which the next step leads. -/
theorem layout_shows_every_stand (h : table.rules ≠ []) :
    ∃ fresh, Machine.ofTable? table = some fresh ∧
      ∀ (calls : List Machine.Call) (start : Text.Wording),
        let machine := fresh.afterCalls calls
        0 < machine.configuration.steps →
          ShowsStand (table.layout machine.configuration.state start) table machine := by
  obtain ⟨fresh, hf⟩ := Machine.ofTable?_exists h
  refine ⟨fresh, hf, fun calls start => ?_⟩
  intro machine hpos
  exact showsStand_layout (Machine.arrived_afterCalls hf calls) (Machine.sound_afterCalls hf calls)
    hpos start

/-- Two rules lead from `s` to `t`, one of which is next, and none leads out of `t` but by its
halt. -/
theorem layout_shows_every_stand_parallel :
    let table : Table :=
      { rules := [⟨"s", .list ["0", "2"], none, .left, "s"⟩, ⟨"s", .one "1", none, .right, "t"⟩,
          ⟨"s", .one "0", none, .right, "s"⟩, ⟨"s", .one "_", some "x", .left, "t"⟩,
          ⟨"t", .one "0", none, .stay, "u"⟩]
        initialState := "s"
        initialTape := ["0", "1", "0"] }
    table.rules ≠ [] ∧ ∃ fresh, Machine.ofTable? table = some fresh ∧
      let machine := fresh.afterCalls [.step]
      0 < machine.configuration.steps ∧ ShowsStand (table.layout "s" "q0") table machine ∧
        ∃ edge, (table.layout "s" "q0").edges.filter (Edge.joins · ("s", "t")) = [edge] ∧
          edge.label = "1→1,R, _→x,L" := by
  intro table
  have h : table.rules ≠ [] := by decide
  obtain ⟨fresh, hf, shows⟩ := layout_shows_every_stand h
  have hstand : 0 < (fresh.afterCalls [.step]).configuration.steps ∧
      (fresh.afterCalls [.step]).configuration.state = "s" ∧
      (fresh.afterCalls [.step]).step.1 = true ∧
      (fresh.afterCalls [.step]).step.2.configuration.state = "t" := by
    cases Option.some.inj hf
    decide
  obtain ⟨hsteps, hstate, hstep, hnext⟩ := hstand
  have hshows := shows [.step] "q0" hsteps
  rw [hstate] at hshows
  obtain ⟨_, edge, _, he, _, hl, _⟩ := hshows.edge hstep
  rw [hstate, hnext] at he
  have hends : (edge.source, edge.target) = ("s", "t") := by
    have hm : edge ∈ (table.layout "s" "q0").edges.filter (Edge.joins · ("s", "t")) := by
      rw [he]
      exact List.mem_singleton_self edge
    exact of_decide_eq_true (List.mem_filter.mp hm).2
  rw [hends] at hl
  exact ⟨h, fresh, hf, hsteps, hshows, edge, he, hl.trans (by decide)⟩

end StateGraph

end TapeMachine
