import TapeMachine.Proofs.Console.Brackets
import TapeMachine.Proofs.Console.Coloring
import TapeMachine.Proofs.Pool.Sessions

namespace TapeMachine.PoolBuilder

open Console DeskTask

variable {directory path : String} {programs : List String} {desk : Desk}

/-- The menu can be shown whatever is selected. -/
theorem shows_toMenu (builder : PoolBuilder) :
    ∃ items, builder.toMenu.Shows items (.asking { builder with query := .choice }) := by
  have htitle : (Console.plain "\n[bold cyan]Program Pool Builder Menu[/bold cyan]").toOption =
      some "\nProgram Pool Builder Menu" := by decide +kernel
  have hlines : ∀ line ∈ menuLines, (Console.plain line).toOption = some line := by decide +kernel
  have hmenu := shows_forM fun line hl => shows_showMarked (eq_ok_of_toOption (hlines line hl))
  exact ⟨_, (shows_showMarked (eq_ok_of_toOption htitle)).bind (hmenu.bind (shows_pure _))⟩

end TapeMachine.PoolBuilder
