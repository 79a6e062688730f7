import TapeMachine.Proofs.Machine.Misses
import TapeMachine.Proofs.Machine.Tries

namespace TapeMachine.Machine

variable {machine : Machine} {table : Table} {budget more : Nat}

end TapeMachine.Machine
