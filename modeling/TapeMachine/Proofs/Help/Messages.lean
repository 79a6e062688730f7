import TapeMachine.Help.Counter
import TapeMachine.Proofs.Console.Brackets
import TapeMachine.Proofs.Console.Coloring
import TapeMachine.Proofs.Files.Tasks

namespace TapeMachine

open Console Text

variable {text : List Char} {fault : Fault}

namespace Help.Counter

variable {counter : Counter} {text : String}

end Help.Counter

end TapeMachine
