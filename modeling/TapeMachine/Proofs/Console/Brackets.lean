import TapeMachine.Decimal.Text
import TapeMachine.Proofs.Json.Numbers
import TapeMachine.Text.Quoted

namespace TapeMachine

open Text

variable {text : List Char}

end TapeMachine
