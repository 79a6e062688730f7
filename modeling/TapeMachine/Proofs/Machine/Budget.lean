import TapeMachine.Proofs.Machine.Calls

namespace TapeMachine

namespace Configuration

/-- Transitions up to a halt, at most `budget` of them. The first that fails ends the run, and is
told with the configuration that it left as it was. -/
def runFor (table : Table) : Nat → Configuration → Configuration × Option StepError
  | 0, c => (c, none)
  | budget + 1, c =>
    if c.halted then (c, none)
    else
      match c.step table with
      | .error error => (c, some error)
      | .ok next => runFor table budget next

variable {c : Configuration} {table : Table}

theorem runFor_of_halted (h : c.halted = true) (budget : Nat) :
    c.runFor table budget = (c, none) := by
  cases budget with
  | zero => rfl
  | succ budget => rw [runFor, if_pos h]

theorem runFor_succ (h : c.halted = false) (budget : Nat) :
    c.runFor table (budget + 1) =
      match c.step table with
      | .error error => (c, some error)
      | .ok next => next.runFor table budget := by
  rw [runFor, if_neg (by simp [h])]

end Configuration

namespace Machine

variable {machine : Machine} {table : Table}

/-- The machine has come to where the transitions lead, counts them, and tells of the last one if
it failed. -/
structure Follows (machine : Machine) (engine : Configuration × Option StepError)
    (outcome : Nat × Machine) : Prop where
  configuration : outcome.2.configuration = engine.1
  steps : outcome.2.configuration.steps = machine.configuration.steps + outcome.1
  error : outcome.2.error = match engine.2 with
    | some (.missing missing) => some missing
    | _ => machine.error

theorem follows_refl (machine : Machine) :
    Follows machine (machine.configuration, none) (0, machine) :=
  ⟨rfl, by simp, rfl⟩

theorem Follows.of_fired {rule : Rule} {engine : Configuration × Option StepError}
    {outcome : Nat × Machine} (h : Follows (machine.fired rule) engine outcome) :
    Follows machine engine (outcome.1 + 1, outcome.2) where
  configuration := h.configuration
  steps := by
    have hs := h.steps
    have hone : (machine.fired rule).configuration.steps = machine.configuration.steps + 1 := rfl
    rw [hone] at hs
    simp only [Int.natCast_add, Int.natCast_one]
    omega
  error := h.error

theorem Sound.follows_runFor (h : machine.Sound table) (budget : Nat) :
    Follows machine (machine.configuration.runFor table budget) (runFor 0 budget machine) := by
  induction budget generalizing machine with
  | zero => exact follows_refl machine
  | succ budget ih =>
    cases hh : machine.halted with
    | true =>
      rw [runFor_of_halted hh, Configuration.runFor_of_halted hh]
      exact follows_refl machine
    | false =>
      rw [runFor_succ hh, Configuration.runFor_succ hh]
      obtain ⟨hc, _⟩ | ⟨missing, _, hr, hs⟩ | ⟨rule, _, hr, hs⟩ := step_cases machine
      · simp [hc] at hh
      · rw [h.table_eq] at hr
        rw [hs, Configuration.step_of_missing hh hr]
        exact ⟨rfl, by simp, rfl⟩
      · have hn := ih h.step
        rw [hs] at hn
        rw [h.table_eq] at hr
        rw [h.onTape.step_of_rule hh hr, hs, if_pos rfl, runFor_eq_add, Nat.add_comm]
        rw [← h.table_eq] at hn ⊢
        exact hn.of_fired

/-- Two machines that differ in their logs only. -/
structure SamePlace (machine other : Machine) : Prop where
  table : machine.table = other.table
  configuration : machine.configuration = other.configuration
  error : machine.error = other.error

theorem SamePlace.refl (machine : Machine) : SamePlace machine machine :=
  ⟨rfl, rfl, rfl⟩

theorem SamePlace.symm {other : Machine} (h : SamePlace machine other) : SamePlace other machine :=
  ⟨h.table.symm, h.configuration.symm, h.error.symm⟩

theorem SamePlace.trans {first second third : Machine} (h : SamePlace first second)
    (hn : SamePlace second third) : SamePlace first third :=
  ⟨h.table.trans hn.table, h.configuration.trans hn.configuration, h.error.trans hn.error⟩

/-- A rule that has been missed once is missed again. -/
theorem runFor_of_missing {missing : Missing} (hh : machine.halted = false)
    (hr : machine.configuration.rule? machine.table = .error missing)
    (he : machine.error = some missing) (done budget : Nat) :
    (runFor done budget machine).1 = done ∧ SamePlace (runFor done budget machine).2 machine := by
  cases budget with
  | zero => exact ⟨rfl, .refl machine⟩
  | succ budget =>
    rw [runFor_succ hh]
    obtain ⟨hc, _⟩ | ⟨other, _, ho, hs⟩ | ⟨rule, _, ho, _⟩ := step_cases machine
    · simp [hc] at hh
    · cases hr.symm.trans ho
      rw [hs]
      exact ⟨rfl, rfl, rfl, he.symm⟩
    · cases hr.symm.trans ho

theorem runFor_add (done first second : Nat) (machine : Machine) :
    (runFor (runFor done first machine).1 second (runFor done first machine).2).1 =
        (runFor done (first + second) machine).1 ∧
      SamePlace (runFor (runFor done first machine).1 second (runFor done first machine).2).2
        (runFor done (first + second) machine).2 := by
  induction first generalizing done machine with
  | zero =>
    rw [Nat.zero_add]
    exact ⟨rfl, .refl _⟩
  | succ first ih =>
    rw [Nat.succ_add]
    cases hh : machine.halted with
    | true =>
      rw [runFor_of_halted hh, runFor_of_halted hh, runFor_of_halted hh]
      exact ⟨rfl, .refl _⟩
    | false =>
      rw [runFor_succ hh, runFor_succ hh]
      obtain ⟨hc, _⟩ | ⟨missing, _, hr, hs⟩ | ⟨rule, _, hr, hs⟩ := step_cases machine
      · simp [hc] at hh
      · rw [hs]
        exact @runFor_of_missing
          { machine with error := some missing, log := machine.log.push (.missing missing) }
          missing hh hr rfl done second
      · rw [hs]
        exact ih (done + 1) (machine.fired rule)

theorem run_natCast (machine : Machine) (budget : Nat) :
    machine.run budget = runFor 0 budget machine := rfl

/-- A run goes where transitions of the bare configuration go, and counts them; two runs in a row
go as far as one with both budgets. -/
theorem run_follows_and_composes (h : table.rules ≠ []) :
    ∃ fresh, ofTable? table = some fresh ∧ ∀ calls (first second : Nat),
      let machine := fresh.afterCalls calls
      let once := machine.run first
      let twice := once.2.run second
      let whole := machine.run (first + second : Nat)
      Follows machine (machine.configuration.runFor table first) once ∧
        SamePlace twice.2 whole.2 ∧ once.1 + twice.1 = whole.1 := by
  obtain ⟨fresh, hf⟩ := ofTable?_exists h
  refine ⟨fresh, hf, fun calls first second => ?_⟩
  have sound := sound_afterCalls hf calls
  simp only [run_natCast]
  obtain ⟨hcount, hplace⟩ := runFor_add 0 first second (fresh.afterCalls calls)
  rw [runFor_eq_add] at hcount hplace
  exact ⟨sound.follows_runFor first, hplace, hcount⟩

/-- The first run ends on its last step before the rule that is missing, the second on that rule. -/
theorem run_follows_and_composes_stuck :
    let table : Table :=
      { rules := [⟨"s", .one "0", some "1", .right, "s"⟩]
        initialState := "s"
        initialTape := ["0", "0"] }
    table.rules ≠ [] ∧ ∃ fresh, ofTable? table = some fresh ∧
      let once := fresh.run (2 : Nat)
      let twice := once.2.run (3 : Nat)
      let whole := fresh.run (2 + 3 : Nat)
      Follows fresh (fresh.configuration.runFor table 2) once ∧ SamePlace twice.2 whole.2 ∧
        once.1 + twice.1 = whole.1 ∧ whole.2.error = some ⟨"s", "_"⟩ := by
  intro table
  have h : table.rules ≠ [] := by decide
  obtain ⟨fresh, hf, run⟩ := run_follows_and_composes h
  obtain ⟨follows, place, count⟩ := run [] 2 3
  refine ⟨h, fresh, hf, follows, place, count, ?_⟩
  cases Option.some.inj hf
  decide

end Machine

end TapeMachine
