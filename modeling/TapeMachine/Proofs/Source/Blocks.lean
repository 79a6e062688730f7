import TapeMachine.Proofs.Grouping
import TapeMachine.Source.Writer

namespace TapeMachine.Source

variable {rules : List Rule} {rule : Rule} {block : String × List Rule}

/-- The rules state by state, the states in the order of their first rules and the rules of each
in their old order. -/
def regroup (rules : List Rule) : List Rule :=
  (distinct (rules.map Rule.source)).flatMap fun state =>
    rules.filter fun rule => rule.source = state

theorem blocks_eq (rules : List Rule) :
    blocks rules = (distinct (rules.map Rule.source)).map fun state =>
      (state, rules.filter fun rule => rule.source = state) :=
  grouped_eq Rule.source rules

theorem flatMap_blocks (rules : List Rule) : (blocks rules).flatMap Prod.snd = regroup rules := by
  rw [regroup, blocks_eq, List.flatMap_map]

theorem mem_blocks (h : block ∈ blocks rules) :
    (∃ rule ∈ rules, block.1 = rule.source) ∧
      ∀ rule ∈ block.2, rule ∈ rules ∧ rule.source = block.1 := by
  rw [blocks_eq] at h
  obtain ⟨state, hs, rfl⟩ := List.mem_map.mp h
  obtain ⟨rule, hr, he⟩ := List.mem_map.mp (mem_distinct.mp hs)
  refine ⟨⟨rule, hr, he.symm⟩, fun other ho => ?_⟩
  simpa using ho

/-- Every rule is in the one block of its state. -/
theorem regroup_perm (rules : List Rule) : (regroup rules).Perm rules :=
  flatMap_distinct_perm Rule.source rules

/-- Regrouping keeps the order of the rules of each state. -/
theorem filter_regroup (rules : List Rule) (state : String) :
    (regroup rules).filter (fun rule => decide (rule.source = state)) =
      rules.filter fun rule => rule.source = state :=
  filter_flatMap_distinct Rule.source rules state

end TapeMachine.Source
