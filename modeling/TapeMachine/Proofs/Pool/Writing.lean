import TapeMachine.Pool
import TapeMachine.Proofs.Files.Tasks
import TapeMachine.Proofs.Text.Blank

namespace TapeMachine.Pool

open Files Text

variable {programs : List String} {files after : Tree} {path line : String}

/-- The text of a pool, a program on each line. -/
def textOf (programs : List String) : String :=
  String.join (programs.map (· ++ "\n"))

/-- A path that can stand on a line of its own: no blank at either end, no end of a line within. -/
structure IsLine (path : String) : Prop where
  head_not_blank : ∀ c, path.toList.head? = some c → isBlank c = false
  last_not_blank : ∀ c, path.toList.getLast? = some c → isBlank c = false
  newline_notMem : '\n' ∉ path.toList
  return_notMem : '\r' ∉ path.toList

/-- A pool that was written is all that its file holds. -/
theorem written_of_write (h : (write programs path).runOn files = (.ok (), after)) :
    ∃ place, after.Leads path place ∧
      after.node? place = some (.file (textOf programs).toUTF8) := by
  obtain ⟨_, _, _, hwrite⟩ := FileTask.ok_of_bind h
  exact FileTask.written_of_write hwrite

theorem runOn_load (path : String) (files : Tree) :
    (load path).runOn files =
      (((files.readText path).mapError Fault.ofRead).map ofText, files) := by
  rw [load, FileTask.runOn_bind, FileTask.runOn_readText]
  cases files.readText path <;> rfl

end TapeMachine.Pool
