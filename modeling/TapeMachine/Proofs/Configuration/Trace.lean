import TapeMachine.Entry
import TapeMachine.Proofs.Configuration.Advance
import TapeMachine.Proofs.Table.Precedence

namespace TapeMachine

/-- What a log says of one step. -/
structure LoggedStep where
  number : Int
  state : String
  read : String
  next : String
  write : Option String
  move : Move
  head : Int
  deriving DecidableEq, Repr

def LoggedStep.entry (step : LoggedStep) : Entry :=
  .step step.number step.state step.read step.next step.write step.move step.head

/-- A tape and a head on it, as they can be kept by one who has the log only. -/
structure Strip where
  cells : List String
  head : Nat
  deriving DecidableEq, Repr

namespace Strip

def start (table : Table) : Strip where
  cells := if table.initialTape = [] then [table.blank] else table.initialTape
  head := 0

end Strip

namespace Configuration

variable {c start : Configuration} {table : Table} {blank : String} {rule : Rule}
variable {steps : List LoggedStep}

/-- What the log of a machine says of a transition. -/
def logged (c : Configuration) (rule : Rule) (blank : String) : LoggedStep where
  number := (c.fire rule blank).steps
  state := c.state
  read := c.read blank
  next := rule.target
  write := rule.write
  move := rule.move
  head := (c.fire rule blank).head

/-- The logged steps lead from one configuration to another, by rules of the table. -/
inductive Trace (table : Table) (start : Configuration) : List LoggedStep → Configuration → Prop
  | nil : Trace table start [] start
  | concat {steps : List LoggedStep} {c : Configuration} {rule : Rule} :
      Trace table start steps c → c.halted = false → c.rule? table = .ok rule →
      Trace table start (steps ++ [c.logged rule table.blank]) (c.fire rule table.blank)

theorem Trace.onTape (h : Trace table start steps c) (on : start.OnTape) : c.OnTape := by
  induction h with
  | nil => exact on
  | concat _ _ _ ih => exact ih.fire _ _

theorem rule?_eq_ok (h : c.rule? table = .ok rule) :
    table.lookup c.state (c.read table.blank) = some rule := by
  simp only [rule?] at h
  split at h
  next found hl =>
    cases h
    exact hl
  next => cases h

theorem applies_of_rule? (h : c.rule? table = .ok rule) :
    rule ∈ table.rules ∧ rule.source = c.state := by
  obtain ⟨hm, ha⟩ := Table.applies_of_lookup (rule?_eq_ok h)
  exact ⟨hm, (Rule.applies_iff.mp ha).1⟩

/-- Each step is one that the table asks for. -/
theorem Trace.lookup (h : Trace table start steps c) :
    ∀ step ∈ steps, ∃ rule, table.lookup step.state step.read = some rule ∧
      step.write = rule.write ∧ step.move = rule.move ∧ step.next = rule.target := by
  induction h with
  | nil => simp
  | @concat steps c rule _ _ hr ih =>
    intro step hm
    rcases List.mem_append.mp hm with hm | hm
    · exact ih step hm
    · rw [List.mem_singleton.mp hm]
      exact ⟨rule, rule?_eq_ok hr, rfl, rfl, rfl⟩

theorem start?_eq_some (h : start? table = some start) :
    start = { tape := (Strip.start table).cells.toArray, state := table.initialState } := by
  unfold start? at h
  split at h
  next => simp at h
  next => exact (Option.some.inj h).symm

end Configuration

end TapeMachine
