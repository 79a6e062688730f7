import TapeMachine.Table

namespace TapeMachine

/-- No rule applies in `state` to `symbol`. -/
structure Missing where
  state : String
  symbol : String
  deriving DecidableEq, Repr

def Missing.message (missing : Missing) : String :=
  s!"No transition defined for state '{missing.state}' reading symbol '{missing.symbol}'"

/-- A tape that grows to the right, a head on it and a state. -/
structure Configuration where
  tape : Array String := #[]
  head : Int := 0
  state : String := ""
  steps : Int := 0
  halted : Bool := false
  deriving DecidableEq, Repr

inductive StepError where
  | missing (missing : Missing)
  | outsideTape
  deriving DecidableEq, Repr

namespace Configuration

/-- The state that halts a run whatever the move. -/
def haltState : String := "done"

/-- The start of a run. A table without rules has none. -/
def start? (table : Table) : Option Configuration :=
  if table.rules = [] then none
  else
    let tape := if table.initialTape = [] then [table.blank] else table.initialTape
    some { tape := tape.toArray, state := table.initialState }

/-- The symbol under the head, a blank where there is no cell. -/
def read (c : Configuration) (blank : String) : String :=
  if 0 ≤ c.head then c.tape.getD c.head.toNat blank else blank

def text (c : Configuration) : String :=
  String.join c.tape.toList

def rule? (c : Configuration) (table : Table) : Except Missing Rule :=
  let symbol := c.read table.blank
  match table.lookup c.state symbol with
  | some rule => .ok rule
  | none => .error ⟨c.state, symbol⟩

/-- The cell under a head; below zero the cells count from the end of the tape. -/
def cell? (tape : Array String) (head : Int) : Option Nat :=
  let index := if head < 0 then tape.size + head else head
  if 0 ≤ index ∧ index < tape.size then some index.toNat else none

/-- Whether a write meets a cell. -/
def canWrite (c : Configuration) (write : Option String) : Bool :=
  write.isNone || (cell? c.tape c.head).isSome

/-- The tape after a write; one that meets no cell changes nothing. -/
def written (tape : Array String) (head : Int) : Option String → Array String
  | none => tape
  | some symbol =>
    match cell? tape head with
    | none => tape
    | some i => tape.setIfInBounds i symbol

/-- The head after a move; at the left end it stays. -/
def moved (head : Int) : Move → Int
  | .left => max 0 (head - 1)
  | .right => head + 1
  | .stay => head

/-- The tape after a move to the right past its end has one more blank. -/
def grown (tape : Array String) (head : Int) (move : Move) (blank : String) : Array String :=
  if move = .right ∧ (tape.size : Int) ≤ head + 1 then tape.push blank else tape

/-- Writes, moves and changes the state. -/
def fire : Configuration → Rule → String → Configuration
  | ⟨tape, head, _, steps, halted⟩, rule, blank =>
    { tape := grown (written tape head rule.write) head rule.move blank
      head := moved head rule.move
      state := rule.target
      steps := steps + 1
      halted := halted || rule.move == .stay || rule.target == haltState }

/-- The same where the write meets a cell. -/
def fire? (c : Configuration) (rule : Rule) (blank : String) : Option Configuration :=
  if c.canWrite rule.write then some (c.fire rule blank) else none

/-- One transition; a halted configuration stays as it is. -/
def step (c : Configuration) (table : Table) : Except StepError Configuration :=
  if c.halted then .ok c
  else
    match c.rule? table with
    | .error missing => .error (.missing missing)
    | .ok rule =>
      match c.fire? rule table.blank with
      | some next => .ok next
      | none => .error .outsideTape

end Configuration

end TapeMachine
