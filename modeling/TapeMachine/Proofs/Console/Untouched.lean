import TapeMachine.Proofs.Console.Showing

namespace TapeMachine

variable {α β : Type}

namespace FileTask

variable {task : FileTask α} {next : α → FileTask β}

/-- Work that only looks at the files. -/
def Looks (task : FileTask α) : Prop :=
  ∀ files, (task.runOn files).2 = files

theorem Looks.bind (h : task.Looks) (h' : ∀ value, (next value).Looks) :
    (task >>= next).Looks := by
  intro files
  have hf := h files
  rw [runOn_bind]
  rcases ht : task.runOn files with ⟨_ | value, after⟩
  · rwa [ht] at hf
  · rw [ht] at hf
    exact (h' value after).trans hf

end FileTask

namespace DeskTask

variable {task : DeskTask α} {next : α → DeskTask β}

/-- A task that leaves the files as they are, however it ends. -/
def LeavesFiles (task : DeskTask α) : Prop :=
  ∀ desk, (task.runAt desk).2.files = desk.files

/-- What comes after a task is all that tells its files from those of the whole. -/
theorem files_bind (h : ∀ value, (next value).LeavesFiles) (desk : Desk) :
    ((task >>= next).runAt desk).2.files = (task.runAt desk).2.files := by
  rw [runAt_bind]
  rcases task.runAt desk with ⟨_ | value, after⟩
  · rfl
  · exact h value after

theorem LeavesFiles.bind (h : task.LeavesFiles) (h' : ∀ value, (next value).LeavesFiles) :
    (task >>= next).LeavesFiles :=
  fun desk => (files_bind h' desk).trans (h desk)

end DeskTask

end TapeMachine
