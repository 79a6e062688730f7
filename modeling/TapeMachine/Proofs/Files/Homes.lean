import Mathlib.Data.List.TakeWhile
import TapeMachine.Proofs.Files.Folders

namespace TapeMachine.Files

open Text TapeMachine.Files.Tree

variable {text before name : List Char} {separator c : Char} {path : String}

theorem homeOf_whole (path : String) :
    ∃ home, homeOf (.whole path) = .whole home ∧
      (home = "." ∨ headOf '/' path.toList ≠ [] ∧ home = String.ofList (headOf '/' path.toList)) := by
  have hd : directoryOf (.whole path) = .whole (String.ofList (headOf '/' path.toList)) := rfl
  rw [homeOf, hd]
  split
  next => exact ⟨".", rfl, .inl rfl⟩
  next h =>
    refine ⟨_, rfl, .inr ⟨fun he => h ?_, rfl⟩⟩
    rw [he]

theorem parts_append_slash (before name : List Char) :
    parts (String.ofList (before ++ '/' :: name)) =
      parts (String.ofList before) ++ parts (String.ofList name) := by
  simp only [parts_eq, String.toList_ofList, ← List.map_append]
  exact congrArg _ (List.splitOnP_append_cons before name (beq_self_eq_true '/'))

namespace Tree

variable {tree made : Tree} {start place home : Place}

end Tree

namespace Tree

variable {tree made : Tree} {problem : Problem} {error : Error}

end Tree

end TapeMachine.Files
