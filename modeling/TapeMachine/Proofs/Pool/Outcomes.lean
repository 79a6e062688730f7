import TapeMachine.Proofs.Pool.AddingAll

namespace TapeMachine.PoolBuilder

open Console DeskTask

/-- What a session comes to in the files. -/
structure Outcome (directory path : String) (lines : List String) (desk : Desk) : Prop where
  /-- As long as it goes on, a session has touched no file, whatever is selected. -/
  waiting : ∀ before builder now, before <+: lines →
    (stands directory path before).runAt desk = (.ok (.asking builder), now) →
      now.files = desk.files ∧ Selection builder.programs before builder.selected ∧
        (Pool.collect directory).runOn desk.files = (.ok builder.programs, desk.files)
  /-- If it is told to save something, the selection is written, and that is all. -/
  saved : ∀ before selected, Saves directory path lines desk before selected →
    ((session directory path lines).runAt desk).2.files =
      ((Pool.write selected path).runOn desk.files).2
  untouched : (∀ before selected, ¬Saves directory path lines desk before selected) →
    ((session directory path lines).runAt desk).2.files = desk.files
  /-- What is written was selected by then, out of the programs in the directory. -/
  selection : ∀ before selected, Saves directory path lines desk before selected →
    selected ≠ [] ∧ ∃ programs, Selection programs before selected ∧
      (Pool.collect directory).runOn desk.files = (.ok programs, desk.files)
  /-- If the file system takes it, the file holds a line for each program. -/
  written : ∀ before selected after, Saves directory path lines desk before selected →
    (Pool.write selected path).runOn desk.files = (.ok (), after) →
      after.readBytes path = .ok (Pool.textOf selected).toUTF8
  /-- Programs that can stand on lines of their own are loaded again as they were selected. -/
  loaded : ∀ before selected after, Saves directory path lines desk before selected →
    (Pool.write selected path).runOn desk.files = (.ok (), after) →
    (∀ program ∈ selected, Pool.IsLine program) →
      (Pool.load path).runOn after = (.ok selected, after)

end TapeMachine.PoolBuilder
