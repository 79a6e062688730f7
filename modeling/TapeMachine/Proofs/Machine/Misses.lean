import TapeMachine.Proofs.Configuration.Trace
import TapeMachine.Proofs.Machine.Budget

namespace TapeMachine

namespace Configuration

variable {c : Configuration} {table : Table} {missing : Missing}

/-- A missing rule is told by what a rule would have to cover. -/
theorem rule?_eq_error_iff :
    c.rule? table = .error missing ↔
      table.lookup c.state (c.read table.blank) = none ∧
        missing = ⟨c.state, c.read table.blank⟩ := by
  simp only [rule?]
  cases table.lookup c.state (c.read table.blank) with
  | none => simp [eq_comm]
  | some rule => simp

end Configuration

namespace Machine

variable {machine other fresh : Machine} {table : Table} {missing : Missing}

/-- The machine has not halted and has no rule for what it reads. -/
def Misses (machine : Machine) : Prop :=
  machine.halted = false ∧
    machine.table.lookup machine.configuration.state
      (machine.configuration.read machine.table.blank) = none

/-- What is said to be missing where the machine stands. -/
def wanted (machine : Machine) : Missing :=
  ⟨machine.configuration.state, machine.configuration.read machine.table.blank⟩

theorem misses_iff :
    machine.Misses ↔ machine.halted = false ∧
      machine.configuration.rule? machine.table = .error machine.wanted := by
  rw [Misses, Configuration.rule?_eq_error_iff]
  exact and_congr_right fun _ => (and_iff_left rfl).symm

theorem misses_of_missing (hh : machine.halted = false)
    (hr : machine.configuration.rule? machine.table = .error missing) :
    machine.Misses ∧ missing = machine.wanted :=
  have hm := Configuration.rule?_eq_error_iff.mp hr
  ⟨⟨hh, hm.1⟩, hm.2⟩

theorem not_misses_of_rule {rule : Rule}
    (hr : machine.configuration.rule? machine.table = .ok rule) : ¬machine.Misses := by
  intro hm
  cases hr.symm.trans (misses_iff.mp hm).2

/-- Where a rule is missing a step leaves everything but the error and the log. -/
theorem Misses.step (h : machine.Misses) :
    machine.step = (false, { machine with
      error := some machine.wanted, log := machine.log.push (.missing machine.wanted) }) := by
  obtain ⟨hh, hr⟩ := misses_iff.mp h
  obtain ⟨hc, _⟩ | ⟨missing, _, ho, hs⟩ | ⟨rule, _, ho, _⟩ := step_cases machine
  · simp [hc] at hh
  · cases hr.symm.trans ho
    exact hs
  · cases hr.symm.trans ho

/-- The machines at which a call tries a step. -/
def Call.tried (machine : Machine) : Call → List Machine
  | .step => [machine]
  | .run budget => (frames budget.toNat machine).dropLast
  | .reset => []

/-- The machines at which a step has been tried since the last reset, some of them before. -/
def triedAfter (before : List Machine) (machine : Machine) : List Call → List Machine
  | [] => before
  | .reset :: calls => triedAfter [] machine.reset calls
  | call :: calls => triedAfter (before ++ call.tried machine) (machine.call call) calls

def triedSinceReset (machine : Machine) (calls : List Call) : List Machine :=
  triedAfter [] machine calls

theorem frames_ne_nil (budget : Nat) (machine : Machine) : frames budget machine ≠ [] := by
  unfold frames
  split
  next => simp
  next =>
    split
    next => simp
    next => split <;> simp

/-- A run tries a step where it is, and goes on behind it. -/
theorem dropLast_frames_succ (h : machine.halted = false) (budget : Nat) :
    (frames (budget + 1) machine).dropLast =
      machine :: if machine.step.1 then (frames budget machine.step.2).dropLast else [] := by
  rw [frames, if_neg (by simp [h])]
  rcases machine.step with ⟨_ | _, next⟩
  · rfl
  · exact List.dropLast_cons_of_ne_nil (frames_ne_nil budget next)

theorem frames_of_halted (h : machine.halted = true) (budget : Nat) :
    frames budget machine = [machine] := by
  cases budget with
  | zero => rfl
  | succ budget => rw [frames, if_pos h]

/-- An error is set by a step that misses a rule, and no step takes it away. -/
theorem error_step_iff (machine : Machine) :
    machine.step.2.error ≠ none ↔ machine.error ≠ none ∨ machine.Misses := by
  obtain ⟨hh, hs⟩ | ⟨missing, hh, hr, hs⟩ | ⟨rule, hh, hr, hs⟩ := step_cases machine
  · have hn : ¬machine.Misses := fun hm => by simp [hm.1] at hh
    simp [hs, hn]
  · simp [hs, (misses_of_missing hh hr).1]
  · simp [hs, fired, not_misses_of_rule hr]

theorem error_runFor_iff (budget : Nat) (machine : Machine) :
    (runFor 0 budget machine).2.error ≠ none ↔
      machine.error ≠ none ∨ ∃ tried ∈ (frames budget machine).dropLast, tried.Misses := by
  induction budget generalizing machine with
  | zero => simp [runFor, frames]
  | succ budget ih =>
    cases hh : machine.halted with
    | true => simp [runFor_of_halted hh, frames_of_halted hh]
    | false =>
      have hstep := error_step_iff machine
      rw [runFor_succ hh, dropLast_frames_succ hh, runFor_eq_add]
      cases machine.step.1 with
      | false => simpa using hstep
      | true =>
        have hrest := ih machine.step.2
        simp only [↓reduceIte, List.exists_mem_cons_iff] at hrest ⊢
        rw [hrest, hstep, or_assoc]

theorem error_call_iff {call : Call} (hc : call ≠ .reset) (machine : Machine) :
    (machine.call call).error ≠ none ↔
      machine.error ≠ none ∨ ∃ tried ∈ call.tried machine, tried.Misses := by
  cases call with
  | step =>
    have hone : (∃ tried ∈ Call.step.tried machine, tried.Misses) ↔ machine.Misses := by
      simp [Call.tried]
    rw [hone]
    exact error_step_iff machine
  | run budget => exact error_runFor_iff budget.toNat machine
  | reset => exact absurd rfl hc

theorem Sound.reset_eq (h : machine.Sound table) (hf : ofTable? table = some fresh) :
    machine.reset = fresh := by
  rw [reset, h.table_eq, hf]
  rfl

theorem Sound.of_runFor (h : machine.Sound table) (done budget : Nat) :
    (runFor done budget machine).2.Sound table :=
  runFor_invariant (fun _ hp => hp.step) h done budget

theorem Sound.call (h : machine.Sound table) (hf : ofTable? table = some fresh) (call : Call) :
    (machine.call call).Sound table := by
  cases call with
  | step => exact h.step
  | run budget => exact h.of_runFor 0 budget.toNat
  | reset =>
    rw [Machine.call, h.reset_eq hf]
    exact sound_ofTable? hf

theorem error_ofTable? (hf : ofTable? table = some fresh) : fresh.error = none := by
  obtain ⟨start, _, rfl⟩ := ofTable?_eq_some hf
  rfl

/-- There is an error where a step has missed a rule since the last reset. -/
theorem Sound.error_afterCalls_iff (hf : ofTable? table = some fresh) (h : machine.Sound table)
    {before : List Machine}
    (he : machine.error ≠ none ↔ ∃ tried ∈ before, tried.Misses) (calls : List Call) :
    (machine.afterCalls calls).error ≠ none ↔
      ∃ tried ∈ triedAfter before machine calls, tried.Misses := by
  -- A reset forgets what was tried before it, so `before` is not the same along the calls.
  induction calls generalizing machine before with
  | nil => exact he
  | cons call calls ih =>
    by_cases hc : call = .reset
    · subst hc
      have hnone : (machine.call .reset).error = none := by
        rw [Machine.call, h.reset_eq hf, error_ofTable? hf]
      exact ih (h.call hf .reset) (by simp [hnone])
    · have hboth : (machine.call call).error ≠ none ↔
          ∃ tried ∈ before ++ call.tried machine, tried.Misses := by
        rw [error_call_iff hc, he]
        simp [or_and_right, exists_or]
      have hrest := ih (h.call hf call) hboth
      cases call with
      | reset => exact absurd rfl hc
      | step => exact hrest
      | run budget => exact hrest

/-- A rule has been missed, and is missed at every further try. -/
structure Stuck (machine : Machine) : Prop where
  misses : machine.Misses
  error : machine.error = some machine.wanted

theorem Stuck.of_samePlace (h : machine.Stuck) (hs : SamePlace other machine) : other.Stuck := by
  obtain ⟨ht, hc, he⟩ := hs
  have hw : other.wanted = machine.wanted := by rw [wanted, wanted, ht, hc]
  refine ⟨?_, by rw [he, hw, h.error]⟩
  rw [Misses, halted, ht, hc]
  exact h.misses

theorem Stuck.step (h : machine.Stuck) :
    machine.step.1 = false ∧ SamePlace machine.step.2 machine := by
  rw [h.misses.step]
  exact ⟨rfl, rfl, rfl, h.error.symm⟩

theorem Stuck.run (h : machine.Stuck) (budget : Int) :
    (machine.run budget).1 = 0 ∧ SamePlace (machine.run budget).2 machine :=
  runFor_of_missing h.misses.1 (misses_iff.mp h.misses).2 h.error 0 budget.toNat

/-- Nothing but a reset moves a machine that is stuck. -/
theorem Stuck.afterCalls (h : machine.Stuck) {calls : List Call} (hc : .reset ∉ calls) :
    SamePlace (machine.afterCalls calls) machine := by
  induction calls generalizing machine with
  | nil => exact .refl machine
  | cons call calls ih =>
    obtain ⟨hfirst, hrest⟩ := not_or.mp (List.mem_cons.not.mp hc)
    have hone : SamePlace (machine.call call) machine := by
      cases call with
      | step => exact h.step.2
      | run budget => exact (h.run budget).2
      | reset => exact absurd rfl hfirst
    exact (ih (h.of_samePlace hone) hrest).trans hone

/-- An error is that of the rule which is missing where the machine stands. -/
theorem Sound.stuck (h : machine.Sound table) (he : machine.error = some missing) :
    machine.Stuck := by
  obtain ⟨hh, hr⟩ := h.error missing he
  rw [← h.table_eq] at hr
  obtain ⟨hm, hw⟩ := misses_of_missing hh hr
  exact ⟨hm, by rw [he, hw]⟩

/-- There is an error exactly if a step has missed a rule since the last reset. The machine has not
halted then, the rule is still missing, and until the next reset no step is made and nothing
changes. -/
theorem error_exact_and_final (h : table.rules ≠ []) :
    ∃ fresh, ofTable? table = some fresh ∧ ∀ calls : List Call,
      let machine := fresh.afterCalls calls
      (machine.error ≠ none ↔ ∃ tried ∈ fresh.triedSinceReset calls, tried.Misses) ∧
      (∀ missing, machine.error = some missing →
        machine.halted = false ∧ machine.configuration.rule? table = .error missing ∧
        ∀ more, .reset ∉ more → let later := machine.afterCalls more
          SamePlace later machine ∧ later.step.1 = false ∧
            ∀ budget, (later.run budget).1 = 0) ∧
      (machine.step.1 = true → machine.error = none) ∧
      (machine.Misses → machine.step.1 = false ∧
        machine.step.2.configuration = machine.configuration ∧
        machine.step.2.error = some machine.wanted) ∧
      machine.reset = fresh := by
  obtain ⟨fresh, hf⟩ := ofTable?_exists h
  refine ⟨fresh, hf, fun calls => ?_⟩
  intro machine
  have sound : machine.Sound table := sound_afterCalls hf calls
  refine ⟨?_, fun missing he => ?_, fun hstep => ?_, fun hm => ?_, sound.reset_eq hf⟩
  · have hnone := error_ofTable? hf
    exact (sound_ofTable? hf).error_afterCalls_iff hf (by simp [hnone]) calls
  · obtain ⟨hh, hr⟩ := sound.error missing he
    refine ⟨hh, hr, fun more hmore => ?_⟩
    have hsame := (sound.stuck he).afterCalls hmore
    have hstuck := (sound.stuck he).of_samePlace hsame
    exact ⟨hsame, hstuck.step.1, fun budget => (hstuck.run budget).1⟩
  · refine Option.eq_none_iff_forall_ne_some.mpr fun missing he => ?_
    have hnot := (sound.stuck he).step.1
    simp [hstep] at hnot
  · rw [hm.step]
    exact ⟨rfl, rfl, rfl⟩

/-- Of two runs with a reset between them only the second counts; it misses a rule on the blank
behind the tape. -/
theorem error_exact_and_final_restarted :
    let table : Table :=
      { rules := [⟨"s", .one "0", some "1", .right, "s"⟩]
        initialState := "s"
        initialTape := ["0", "0"] }
    let calls : List Call := [.run 5, .reset, .run 2, .step]
    table.rules ≠ [] ∧ ∃ fresh, ofTable? table = some fresh ∧
      let machine := fresh.afterCalls calls
      machine.error = some ⟨"s", "_"⟩ ∧ (∃ tried ∈ fresh.triedSinceReset calls, tried.Misses) ∧
        SamePlace (machine.afterCalls [.run 3, .step]) machine ∧ machine.reset = fresh := by
  intro table calls
  have h : table.rules ≠ [] := by decide
  obtain ⟨fresh, hf, facts⟩ := error_exact_and_final h
  obtain ⟨hiff, hfinal, -, -, hreset⟩ := facts calls
  have he : (fresh.afterCalls calls).error = some ⟨"s", "_"⟩ := by
    cases Option.some.inj hf
    decide
  refine ⟨h, fresh, hf, he, hiff.mp (by simp [he]), ?_, hreset⟩
  obtain ⟨-, -, hlater⟩ := hfinal _ he
  exact (hlater [.run 3, .step] (by decide)).1

end Machine

end TapeMachine
