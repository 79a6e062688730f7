import TapeMachine.Configuration
import TapeMachine.Record

namespace TapeMachine

/-- What happened to a machine. A step tells the state it left, the symbol it found and the rule's
answer, and the position of the head after it. -/
inductive Entry where
  | started (transitions : Nat) (state tape : String)
  | step (number : Int) (state read : String) (next : String) (write : Option String)
      (move : Move) (head : Int)
  | halted (state : String)
  | alreadyHalted
  | missing (missing : Missing)
  deriving DecidableEq, Repr

namespace Entry

def record : Entry → Record
  | started transitions state tape =>
    [("event", .str "initialized"), ("transitions", .ofNat transitions), ("state", .str state),
      ("tape", .str tape)]
  | step number state read next write move head =>
    [("event", .str "step"), ("step", .int number), ("state", .str state), ("read", .str read),
      ("next_state", .str next), ("write", .ofOption write), ("move", .str move.letter.toString),
      ("head", .int head)]
  | halted state => [("event", .str "halted"), ("state", .str state)]
  | alreadyHalted => [("event", .str "already_halted")]
  | missing ⟨state, symbol⟩ =>
    [("event", .str "error"), ("state", .str state), ("symbol", .str symbol)]

/-- The message about an entry, which lacks no field. -/
def message (entry : Entry) : String :=
  entry.record.message.toOption.getD ""

theorem message_eq (entry : Entry) : Record.message entry.record = .ok entry.message := by
  cases entry with
  | started => rfl
  | step _ _ _ _ write move _ => cases write <;> cases move <;> rfl
  | halted => rfl
  | alreadyHalted => rfl
  | missing missing => rfl

end Entry

end TapeMachine
