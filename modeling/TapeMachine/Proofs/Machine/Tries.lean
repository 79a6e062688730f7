import TapeMachine.Proofs.Machine.Calls

namespace TapeMachine.Machine

variable {machine : Machine} {table : Table} {rule : Rule} {missing : Missing}

/-- Whether a run ended because a rule was missing: neither the halt nor the budget ended it. -/
def missed (machine : Machine) (budget : Nat) : Bool :=
  let outcome := runFor 0 budget machine
  !outcome.2.halted && decide (outcome.1 < budget)

/-- The steps tried in a run, the one that found no rule among them. -/
def tries (machine : Machine) (budget : Nat) : Nat :=
  (runFor 0 budget machine).1 + (machine.missed budget).toNat

/-- No step can be made any more. -/
def isOver (machine : Machine) : Bool :=
  machine.halted || machine.error.isSome

theorem runFor_of_error (h : machine.halted = false)
    (hr : machine.configuration.rule? machine.table = .error missing) (budget : Nat) :
    runFor 0 (budget + 1) machine = (0, machine.step.2) := by
  obtain ⟨hc, _⟩ | ⟨_, _, _, hs⟩ | ⟨_, _, ho, _⟩ := step_cases machine
  · simp [hc] at h
  · simp [runFor_succ h, hs]
  · cases hr.symm.trans ho

theorem runFor_of_rule (h : machine.halted = false)
    (hr : machine.configuration.rule? machine.table = .ok rule) (budget : Nat) :
    runFor 0 (budget + 1) machine =
      ((runFor 0 budget machine.step.2).1 + 1, (runFor 0 budget machine.step.2).2) := by
  obtain ⟨hc, _⟩ | ⟨_, _, ho, _⟩ | ⟨_, _, _, hs⟩ := step_cases machine
  · simp [hc] at h
  · cases hr.symm.trans ho
  · rw [runFor_succ h, hs, if_pos rfl, runFor_eq_add, Nat.add_comm]

theorem halted_step_of_missing (h : machine.halted = false)
    (hr : machine.configuration.rule? machine.table = .error missing) :
    machine.step.2.halted = false := by
  obtain ⟨hc, _⟩ | ⟨_, _, _, hs⟩ | ⟨_, _, ho, _⟩ := step_cases machine
  · simp [hc] at h
  · rw [hs]
    exact h
  · cases hr.symm.trans ho

theorem tries_zero (machine : Machine) : machine.tries 0 = 0 := by
  simp [tries, missed, runFor]

theorem tries_of_halted (h : machine.halted = true) (budget : Nat) :
    machine.tries budget = 0 := by
  simp [tries, missed, runFor_of_halted h, h]

theorem tries_of_missing (h : machine.halted = false)
    (hr : machine.configuration.rule? machine.table = .error missing) (budget : Nat) :
    machine.tries (budget + 1) = 1 := by
  simp [tries, missed, runFor_of_error h hr, halted_step_of_missing h hr]

theorem missed_of_rule (h : machine.halted = false)
    (hr : machine.configuration.rule? machine.table = .ok rule) (budget : Nat) :
    machine.missed (budget + 1) = machine.step.2.missed budget := by
  simp only [missed, runFor_of_rule h hr, Nat.add_lt_add_iff_right]

theorem tries_of_rule (h : machine.halted = false)
    (hr : machine.configuration.rule? machine.table = .ok rule) (budget : Nat) :
    machine.tries (budget + 1) = machine.step.2.tries budget + 1 := by
  rw [tries, tries, missed_of_rule h hr, runFor_of_rule h hr]
  omega

theorem tries_pos (h : machine.halted = false) (budget : Nat) :
    0 < machine.tries (budget + 1) := by
  cases hr : machine.configuration.rule? machine.table with
  | error missing => simp [tries_of_missing h hr]
  | ok rule => simp [tries_of_rule h hr]

theorem Sound.error_of_halted (h : machine.Sound table) (hh : machine.halted = true) :
    machine.error = none := by
  refine Option.eq_none_iff_forall_ne_some.mpr fun missing he => ?_
  simp [(h.error missing he).1] at hh

theorem Sound.error_of_rule (h : machine.Sound table)
    (hr : machine.configuration.rule? machine.table = .ok rule) : machine.error = none := by
  refine Option.eq_none_iff_forall_ne_some.mpr fun missing he => ?_
  have hm := (h.error missing he).2
  rw [← h.table_eq, hr] at hm
  cases hm

theorem Sound.isOver_step (h : machine.Sound table)
    (hr : machine.configuration.rule? machine.table = .ok rule) (hh : machine.halted = false) :
    machine.step.2.isOver = machine.step.2.halted := by
  obtain ⟨hc, _⟩ | ⟨_, _, ho, _⟩ | ⟨other, _, _, hs⟩ := step_cases machine
  · simp [hc] at hh
  · cases hr.symm.trans ho
  · have he : machine.step.2.error = none := by
      rw [hs]
      exact h.error_of_rule hr
    simp [isOver, he]

/-- A step after which none can be made is the only one that a run tries. -/
theorem Sound.run_of_isOver (h : machine.Sound table) (hh : machine.halted = false)
    (ho : machine.step.2.isOver = true) (budget : Nat) :
    machine.tries (budget + 1) = 1 ∧ (runFor 0 (budget + 1) machine).2 = machine.step.2 := by
  cases hr : machine.configuration.rule? machine.table with
  | error missing => exact ⟨tries_of_missing hh hr budget, by rw [runFor_of_error hh hr]⟩
  | ok rule =>
    have hn : machine.step.2.halted = true := (h.isOver_step hr hh).symm.trans ho
    refine ⟨?_, ?_⟩
    · rw [tries_of_rule hh hr, tries_of_halted hn]
    · rw [runFor_of_rule hh hr, runFor_of_halted hn]

/-- A step after which another can be tried has found its rule. -/
theorem rule_of_not_isOver (hh : machine.halted = false) (ho : machine.step.2.isOver = false) :
    ∃ rule, machine.configuration.rule? machine.table = .ok rule := by
  obtain ⟨hc, _⟩ | ⟨missing, _, _, hs⟩ | ⟨rule, _, hr, _⟩ := step_cases machine
  · simp [hc] at hh
  · simp [hs, isOver] at ho
  · exact ⟨rule, hr⟩

/-- Only a step that finds no rule leaves an error, and it ends the run. -/
theorem Sound.missed_eq (h : machine.Sound table) {budget : Nat}
    (hb : machine.error = none ∨ budget ≠ 0) :
    machine.missed budget = (runFor 0 budget machine).2.error.isSome := by
  induction budget generalizing machine with
  | zero =>
    have he := hb.resolve_right (by simp)
    simp [missed, runFor, he]
  | succ budget ih =>
    cases hh : machine.halted with
    | true => simp [missed, runFor_of_halted hh, hh, h.error_of_halted hh]
    | false =>
      obtain ⟨hc, _⟩ | ⟨missing, _, hr, hs⟩ | ⟨rule, _, hr, hs⟩ := step_cases machine
      · simp [hc] at hh
      · have hn := halted_step_of_missing hh hr
        have he : machine.step.2.error = some missing := by rw [hs]
        simp [missed, runFor_of_error hh hr, hn, he]
      · have hn : machine.step.2.error = none := by
          rw [hs]
          exact h.error_of_rule hr
        rw [missed_of_rule hh hr, runFor_of_rule hh hr]
        exact ih h.step (.inl hn)

end TapeMachine.Machine
