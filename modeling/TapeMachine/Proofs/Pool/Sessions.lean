import TapeMachine.Proofs.Pool.Selections
import TapeMachine.Proofs.Pool.Writing

namespace TapeMachine.PoolBuilder

open Console DeskTask

variable {builder next : PoolBuilder} {line path directory : String} {desk now : Desk}
variable {programs selected lines before rest : List String}

/-- Whether a line saves a selection: the fourth choice at the menu does if anything is selected. -/
structure SavesOn (builder : PoolBuilder) (line : String) : Prop where
  at_menu : builder.query = .choice
  choice_eq : choiceAnswer? choices "5" line = some "4"
  selected_ne_nil : builder.selected ≠ []

/-- The paths in a directory differ, and none of them is empty. -/
theorem collected {files after : Files.Tree}
    (h : (Pool.collect directory).runOn files = (.ok programs, after)) :
    programs.Nodup ∧ ∀ program ∈ programs, program ≠ "" := by
  unfold Pool.collect at h
  obtain ⟨there, mid, -, h⟩ := FileTask.ok_of_bind h
  cases there with
  | false =>
    cases h
    exact ⟨List.nodup_nil, nofun⟩
  | true =>
    obtain ⟨parts, mid, -, h⟩ := FileTask.ok_of_bind h
    obtain ⟨tree, mid, -, h⟩ := FileTask.ok_of_bind h
    split at h
    next =>
      cases h
      exact ⟨List.nodup_nil, nofun⟩
    next =>
      obtain ⟨ways, mid, -, h⟩ := FileTask.ok_of_bind h
      cases h
      refine ⟨(List.mergeSort_perm _ _).nodup_iff.mpr (distinct_nodup _), fun program hp => ?_⟩
      rw [List.mem_mergeSort, mem_distinct] at hp
      obtain ⟨way, -, rfl⟩ := List.mem_map.mp hp
      exact Files.normal_ne_empty _

/-- Where a session with a directory and a path for the pool stands after lines. -/
def stands (directory path : String) (lines : List String) : DeskTask (Stage PoolBuilder) :=
  start directory (some path) >>= (Stage.after respond · lines)

/-- A session with these lines, whether they bring it to an end or not. -/
def session (directory path : String) (lines : List String) : DeskTask (Option Int) :=
  start directory (some path) >>= (Stage.hear respond · lines)

/-- After some of its lines a session is told to save what is selected by then. -/
def Saves (directory path : String) (lines : List String) (desk : Desk)
    (before selected : List String) : Prop :=
  ∃ line rest builder now, lines = before ++ line :: rest ∧
    (stands directory path before).runAt desk = (.ok (.asking builder), now) ∧
    builder.SavesOn line ∧ builder.selected = selected

end TapeMachine.PoolBuilder
