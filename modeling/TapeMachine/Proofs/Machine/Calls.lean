import Mathlib.Data.List.Induction
import TapeMachine.Machine
import TapeMachine.Proofs.Configuration.Advance

namespace TapeMachine.Machine

variable {machine fresh : Machine} {table : Table} {rule : Rule}

/-- The machine after a transition by a rule, with the entries about it. -/
def fired (machine : Machine) (rule : Rule) : Machine :=
  let c := machine.configuration
  let next := c.fire rule machine.table.blank
  { machine with
    configuration := next
    log := machine.log ++ entries c.state (c.read machine.table.blank) rule next }

/-- What a step comes to. -/
theorem step_cases (machine : Machine) :
    (machine.halted = true ∧
        machine.step = (false, { machine with log := machine.log.push .alreadyHalted })) ∨
      (∃ missing, machine.halted = false ∧
        machine.configuration.rule? machine.table = .error missing ∧
        machine.step = (false,
          { machine with error := some missing, log := machine.log.push (.missing missing) })) ∨
      ∃ rule, machine.halted = false ∧
        machine.configuration.rule? machine.table = .ok rule ∧
        machine.step = (true, machine.fired rule) := by
  obtain ⟨table, c, error, log⟩ := machine
  simp only [halted, step, fired]
  cases hh : c.halted with
  | true => exact .inl ⟨rfl, rfl⟩
  | false =>
    cases hr : c.rule? table with
    | error missing => exact .inr (.inl ⟨missing, rfl, rfl, rfl⟩)
    | ok rule => exact .inr (.inr ⟨rule, rfl, rfl, rfl⟩)

theorem runFor_of_halted (h : machine.halted = true) (done budget : Nat) :
    runFor done budget machine = (done, machine) := by
  cases budget with
  | zero => rfl
  | succ budget => rw [runFor, if_pos h]

theorem runFor_succ (h : machine.halted = false) (done budget : Nat) :
    runFor done (budget + 1) machine =
      if machine.step.1 then runFor (done + 1) budget machine.step.2
      else (done, machine.step.2) := by
  rw [runFor, if_neg (by simp [h])]
  obtain ⟨advanced, next⟩ := machine.step
  cases advanced <;> rfl

/-- The steps made before are only counted. -/
theorem runFor_eq_add (done budget : Nat) (machine : Machine) :
    runFor done budget machine =
      (done + (runFor 0 budget machine).1, (runFor 0 budget machine).2) := by
  induction budget generalizing done machine with
  | zero => rfl
  | succ budget ih =>
    cases hh : machine.halted with
    | true => simp [runFor_of_halted hh]
    | false =>
      rw [runFor_succ hh, runFor_succ hh]
      cases machine.step.1 with
      | false => rfl
      | true =>
        simp only [↓reduceIte]
        rw [ih (done + 1), ih (0 + 1)]
        simp only [Prod.mk.injEq, and_true]
        omega

/-- What is shown of a run last is where it ends. -/
theorem getLast?_frames (done budget : Nat) (machine : Machine) :
    (frames budget machine).getLast? = some (runFor done budget machine).2 := by
  induction budget generalizing done machine with
  | zero => rfl
  | succ budget ih =>
    cases hh : machine.halted with
    | true => rw [runFor_of_halted hh, frames, if_pos hh, List.getLast?_singleton]
    | false =>
      rw [runFor_succ hh, frames, if_neg (by simp [hh])]
      rcases machine.step with ⟨_ | _, next⟩
      · rfl
      · rw [List.getLast?_cons, ih (done + 1) next]
        rfl

theorem runFor_invariant {P : Machine → Prop} (hstep : ∀ machine, P machine → P machine.step.2)
    (h : P machine) (done budget : Nat) : P (runFor done budget machine).2 := by
  induction budget generalizing done machine with
  | zero => exact h
  | succ budget ih =>
    cases hh : machine.halted with
    | true => rwa [runFor_of_halted hh]
    | false =>
      rw [runFor_succ hh]
      split
      next => exact ih (hstep machine h) (done + 1)
      next => exact hstep machine h

theorem ofTable?_exists (h : table.rules ≠ []) : ∃ fresh, ofTable? table = some fresh := by
  obtain ⟨start, hs⟩ := Configuration.start?_exists h
  exact ⟨_, by rw [ofTable?, hs]; rfl⟩

theorem ofTable?_eq_some (h : ofTable? table = some fresh) :
    ∃ start, Configuration.start? table = some start ∧
      fresh = ⟨table, start, none, #[.started table.rules.length start.state start.text]⟩ := by
  obtain ⟨start, hs, he⟩ := Option.map_eq_some_iff.mp h
  exact ⟨start, hs, he.symm⟩

/-- What a user of a machine may ask of it. -/
inductive Call where
  | step
  | run (budget : Int)
  | reset
  deriving DecidableEq, Repr

def call (machine : Machine) : Call → Machine
  | .step => machine.step.2
  | .run budget => (machine.run budget).2
  | .reset => machine.reset

def afterCalls (machine : Machine) (calls : List Call) : Machine :=
  calls.foldl call machine

/-- What holds of a fresh machine and is kept by a step holds after all calls, if it tells of the
table by which a reset makes the machine fresh again. -/
theorem afterCalls_invariant {P : Machine → Prop} (hf : ofTable? table = some fresh)
    (htable : ∀ machine, P machine → machine.table = table)
    (hstep : ∀ machine, P machine → P machine.step.2) (h : P fresh) (calls : List Call) :
    P (fresh.afterCalls calls) := by
  induction calls using List.reverseRecOn with
  | nil => exact h
  | append_singleton calls last ih =>
    rw [afterCalls, List.foldl_append]
    change P ((fresh.afterCalls calls).call last)
    cases last with
    | step => exact hstep _ ih
    | run budget => exact runFor_invariant hstep ih 0 budget.toNat
    | reset =>
      have hr : (fresh.afterCalls calls).reset = fresh := by
        rw [reset, htable _ ih, hf]
        rfl
      rw [call, hr]
      exact h

/-- The head stands on the tape, and a rule that is said to be missing is still the next one. -/
structure Sound (table : Table) (machine : Machine) : Prop where
  table_eq : machine.table = table
  onTape : machine.configuration.OnTape
  error : ∀ missing, machine.error = some missing →
    machine.halted = false ∧ machine.configuration.rule? table = .error missing

theorem sound_ofTable? (h : ofTable? table = some fresh) : fresh.Sound table := by
  obtain ⟨start, hs, rfl⟩ := ofTable?_eq_some h
  exact ⟨rfl, Configuration.onTape_start hs, fun _ he => by simp at he⟩

theorem Sound.step (h : machine.Sound table) : machine.step.2.Sound table := by
  obtain ⟨_, hs⟩ | ⟨missing, hh, hr, hs⟩ | ⟨rule, hh, hr, hs⟩ := step_cases machine
  · rw [hs]
    exact ⟨h.table_eq, h.onTape, h.error⟩
  · rw [hs]
    rw [h.table_eq] at hr
    refine ⟨h.table_eq, h.onTape, fun other he => ⟨hh, ?_⟩⟩
    cases Option.some.inj he
    exact hr
  · rw [hs]
    rw [h.table_eq] at hr
    refine ⟨h.table_eq, h.onTape.fire rule _, fun other he => ?_⟩
    -- A machine that has missed a rule misses it again, so that none can fire.
    have hm := (h.error other he).2
    rw [hr] at hm
    cases hm

theorem sound_afterCalls (h : ofTable? table = some fresh) (calls : List Call) :
    (fresh.afterCalls calls).Sound table :=
  afterCalls_invariant h (fun _ hp => hp.table_eq) (fun _ hp => hp.step) (sound_ofTable? h) calls

end TapeMachine.Machine
