import TapeMachine.Proofs.Batch.Programs
import TapeMachine.Proofs.Machine.Finality

namespace TapeMachine

open Files

namespace Summary

variable {program : Program} {path : String} {fresh : Machine} {summary : Summary} {table : Table}
variable {budget more : Int}

/-- What becomes of a program that is run for so many steps at most. -/
inductive Fate where
  | empty
  | halted
  | stuck
  | unfinished
  deriving DecidableEq, Repr

/-- A summary tells what became of a program with the table. -/
def Tells (table : Table) (budget : Int) (summary : Summary) : Fate → Prop
  | .empty => table.rules = [] ∧ summary.steps = 0 ∧ summary.halted = false ∧
    summary.error? = some Machine.noRules
  | .halted => summary.halted = true ∧ summary.error? = none
  | .stuck => summary.halted = false ∧ ∃ outcome symbol, summary.outcome = some outcome ∧
    table.lookup outcome.state symbol = none ∧
    summary.error? = some (Missing.message ⟨outcome.state, symbol⟩)
  | .unfinished => summary.halted = false ∧ summary.error? = none ∧
    (summary.steps : Int) = max 0 budget

end Summary

/-- A program that goes to the right as long as it finds a zero. -/
def zerosText : String :=
  "input: '0'\ntable:\n right:\n  0: \x7bR: right\x7d\n"

end TapeMachine
