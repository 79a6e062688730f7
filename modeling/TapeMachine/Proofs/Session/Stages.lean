import TapeMachine.Console.Desk
import TapeMachine.Proofs.Console.Showing

namespace TapeMachine.Stage

variable {σ : Type} {respond : σ → String → DeskTask (Stage σ)}

/-- Where a tool stands after lines; what comes after its end is not heard. -/
def after (respond : σ → String → DeskTask (Stage σ)) :
    Stage σ → List String → DeskTask (Stage σ)
  | ended code, _ => return ended code
  | asking state, [] => return asking state
  | asking state, line :: lines => do after respond (← respond state line) lines

/-- The state of a tool that waits for a line. -/
def state? : Stage σ → Option σ
  | ended _ => none
  | asking state => some state

theorem after_nil (stage : Stage σ) : after respond stage [] = pure stage := by
  cases stage <;> rfl

theorem after_ended (code : Option Int) (lines : List String) :
    after respond (ended code) lines = pure (ended code) := by
  cases lines <;> rfl

end TapeMachine.Stage
