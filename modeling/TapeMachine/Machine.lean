import TapeMachine.Entry
import TapeMachine.Source.Writer

namespace TapeMachine

/-- A run of a table: where it stands, the missing rule it met, and its log since the last reset. -/
structure Machine where
  table : Table
  configuration : Configuration
  error : Option Missing := none
  log : Array Entry := #[]

namespace Machine

def halted (machine : Machine) : Bool :=
  machine.configuration.halted

/-- Why a table without rules has no run. -/
def noRules : String := "No valid transitions found in the state table"

/-- A fresh run. A table without rules has none. -/
def ofTable? (table : Table) : Option Machine :=
  (Configuration.start? table).map fun start =>
    { table
      configuration := start
      log := #[.started table.rules.length start.state start.text] }

/-- Starts again from the table, with a log of its own. -/
def reset (machine : Machine) : Machine :=
  (ofTable? machine.table).getD machine

/-- The entries about a transition by `rule` out of a state in which it read a symbol. -/
def entries (state read : String) (rule : Rule) (after : Configuration) : List Entry :=
  .step after.steps state read rule.target rule.write rule.move after.head ::
    if after.halted then [.halted after.state] else []

/-- One transition, and whether there was one. The head of a run never leaves the tape, so that
every write meets a cell. -/
def step : Machine → Bool × Machine
  | ⟨table, c, error, log⟩ =>
    if c.halted then (false, ⟨table, c, error, log.push .alreadyHalted⟩)
    else
      match c.rule? table with
      | .error missing => (false, ⟨table, c, some missing, log.push (.missing missing)⟩)
      | .ok rule =>
        let state := c.state
        let read := c.read table.blank
        let next := c.fire rule table.blank
        (true, ⟨table, next, error, log ++ entries state read rule next⟩)

/-- Steps until the machine halts, misses a rule or has made `budget` more steps; `done` counts
them. -/
def runFor (done : Nat) : Nat → Machine → Nat × Machine
  | 0, machine => (done, machine)
  | budget + 1, machine =>
    if machine.halted then (done, machine)
    else
      match machine.step with
      | (false, machine) => (done, machine)
      | (true, machine) => runFor (done + 1) budget machine

/-- The number of steps made and the machine after them. A budget below zero allows no step. -/
def run (machine : Machine) (budget : Int) : Nat × Machine :=
  runFor 0 budget.toNat machine

/-- The machine before each step that such a run tries, and at the end of it. -/
def frames : Nat → Machine → List Machine
  | 0, machine => [machine]
  | budget + 1, machine =>
    if machine.halted then [machine]
    else
      match machine.step with
      | (false, next) => [machine, next]
      | (true, next) => machine :: frames budget next

def messages (machine : Machine) : List String :=
  machine.log.toList.map Entry.message

end Machine

end TapeMachine
