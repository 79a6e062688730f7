import TapeMachine.Proofs.Configuration.Trace
import TapeMachine.Proofs.Machine.Calls

namespace TapeMachine.Machine

open TapeMachine.Configuration

variable {machine fresh : Machine} {table : Table} {start : Configuration}
variable {steps : List LoggedStep} {rest : List Entry}

/-- What a log says of a halt. -/
def closing (c : Configuration) : List Entry :=
  if c.halted then [.halted c.state] else []

/-- An entry that tells of a step which could not be made. -/
def Refusal (table : Table) (c : Configuration) (entry : Entry) : Prop :=
  if c.halted then entry = .alreadyHalted
  else ∃ missing, c.rule? table = .error missing ∧ entry = .missing missing

theorem refusal_of_halted {c : Configuration} (h : c.halted = true) :
    Refusal table c .alreadyHalted := by
  rw [Refusal, if_pos h]

theorem refusal_of_missing {c : Configuration} {missing : Missing} (h : c.halted = false)
    (hr : c.rule? table = .error missing) : Refusal table c (.missing missing) := by
  rw [Refusal, if_neg (by simp [h])]
  exact ⟨missing, hr, rfl⟩

/-- The log so far: the start, the steps to where the machine is, its halt, and what was asked of
it in vain since. -/
structure Records (table : Table) (start : Configuration) (machine : Machine)
    (steps : List LoggedStep) (rest : List Entry) : Prop where
  table_eq : machine.table = table
  trace : Trace table start steps machine.configuration
  log : machine.log.toList =
    .started table.rules.length start.state start.text ::
      (steps.map LoggedStep.entry ++ (closing machine.configuration ++ rest))
  rest : ∀ entry ∈ rest, Refusal table machine.configuration entry

theorem entries_eq (c : Configuration) (rule : Rule) (blank : String) :
    entries c.state (c.read blank) rule (c.fire rule blank) =
      (c.logged rule blank).entry :: closing (c.fire rule blank) := rfl

theorem Records.refused (h : Records table start machine steps rest) {next : Machine}
    {entry : Entry} (ht : next.table = machine.table)
    (hc : next.configuration = machine.configuration) (hl : next.log = machine.log.push entry)
    (he : Refusal table machine.configuration entry) :
    Records table start next steps (rest ++ [entry]) where
  table_eq := ht.trans h.table_eq
  trace := hc ▸ h.trace
  log := by
    rw [hl, Array.toList_push, h.log, hc]
    simp
  rest := by
    intro other ho
    rw [hc]
    rcases List.mem_append.mp ho with ho | ho
    · exact h.rest other ho
    · rw [List.mem_singleton.mp ho]
      exact he

theorem Records.fired (h : Records table start machine steps rest) {rule : Rule}
    (hh : machine.configuration.halted = false)
    (hr : machine.configuration.rule? table = .ok rule) :
    Records table start (machine.fired rule)
      (steps ++ [machine.configuration.logged rule table.blank]) [] where
  table_eq := h.table_eq
  trace := by
    have ht := Trace.concat h.trace hh hr
    rwa [← h.table_eq] at ht ⊢
  log := by
    -- Nothing has been asked in vain of a machine that can go on.
    have hrest : rest = [] := by
      refine List.eq_nil_iff_forall_not_mem.mpr fun entry he => ?_
      have := h.rest entry he
      rw [Refusal, hh, hr] at this
      simp at this
    have hc : closing machine.configuration = [] := by simp [closing, hh]
    have hl : (machine.fired rule).log = machine.log ++ entries machine.configuration.state
        (machine.configuration.read table.blank) rule
        (machine.configuration.fire rule table.blank) := by
      rw [← h.table_eq]
      rfl
    have hf : (machine.fired rule).configuration =
        machine.configuration.fire rule table.blank := by
      rw [← h.table_eq]
      rfl
    rw [hl, hf, entries_eq, Array.toList_appendList, h.log, hc, hrest]
    simp
  rest := by simp

theorem Records.step (h : Records table start machine steps rest) :
    ∃ steps rest, Records table start machine.step.2 steps rest := by
  obtain ⟨hh, hs⟩ | ⟨missing, hh, hr, hs⟩ | ⟨rule, hh, hr, hs⟩ := step_cases machine
  · rw [hs]
    refine ⟨_, _, h.refused rfl rfl rfl ?_⟩
    exact refusal_of_halted hh
  · rw [hs]
    rw [h.table_eq] at hr
    exact ⟨_, _, h.refused rfl rfl rfl (refusal_of_missing hh hr)⟩
  · rw [hs]
    rw [h.table_eq] at hr
    exact ⟨_, _, h.fired hh hr⟩

end TapeMachine.Machine
