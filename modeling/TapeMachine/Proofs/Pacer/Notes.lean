import TapeMachine.Proofs.Pacer.PlainRun

namespace TapeMachine.Pacer

variable {α : Type} {pacer : Pacer α} {interruptIn : Option Nat}

/-- Whoever is told of the ticks takes notes and does nothing else. -/
def OnlyNotes (pacer : Pacer α) : Prop :=
  ∀ callback, pacer.callback = some callback → ∀ n, callback.actions n = []

/-- The pacer without anybody who is told, and without what was noted. -/
def quiet (pacer : Pacer α) : Pacer α :=
  { pacer with callback := none, notes := #[] }

theorem OnlyNotes.call (h : pacer.OnlyNotes) :
    ∃ notes, pacer.call = ({ pacer with notes }, none) := by
  rw [Pacer.call]
  cases hc : pacer.callback with
  | none => exact ⟨pacer.notes, by simp only [← hc]⟩
  | some callback =>
    refine ⟨pacer.notes.push (callback.note pacer.machine), ?_⟩
    simp only [h callback hc, act]

/-- A tick takes a note at most. -/
theorem OnlyNotes.tick (h : pacer.OnlyNotes) :
    ∃ next, pacer.tick = (.ok pacer.machine.step.1, next) ∧ next.OnlyNotes ∧
      next.quiet = pacer.quiet.ticked := by
  have hticked : pacer.ticked.OnlyNotes := h
  obtain ⟨notes, hcall⟩ := hticked.call
  refine ⟨{ pacer.ticked with notes }, ?_, hticked, rfl⟩
  rw [Pacer.tick, advance_eq]
  simp only [hcall]

theorem tick_quiet (pacer : Pacer α) :
    pacer.quiet.tick = (.ok pacer.machine.step.1, pacer.quiet.ticked) := by
  rw [Pacer.tick, advance_eq]
  rfl

/-- The same loop without the notes. -/
theorem OnlyNotes.loop_quiet (h : pacer.OnlyNotes) (limit : Option Int) (patience ticks : Nat)
    (interruptIn : Option Nat) :
    loop limit patience ticks interruptIn pacer.quiet =
      ((loop limit patience ticks interruptIn pacer).1,
        (loop limit patience ticks interruptIn pacer).2.1,
        (loop limit patience ticks interruptIn pacer).2.2.quiet) := by
  induction patience generalizing pacer ticks interruptIn with
  | zero => rfl
  | succ patience ih =>
    obtain ⟨next, htick, hnext, hquiet⟩ := h.tick
    rw [loop, loop, htick, tick_quiet, ← hquiet]
    simp only
    cases limit.any (· ≤ (ticks + 1 : Int)) with
    | true => rfl
    | false =>
      have hrun : next.quiet.running = next.running := rfl
      simp only [Bool.false_eq_true, if_false, hrun]
      cases next.running with
      | false => rfl
      | true =>
        simp only [if_true, sleep]
        cases interruptIn == some 1 with
        | true => rfl
        | false => exact @ih { next with sleeps := next.sleeps.push next.interval } hnext _ _

theorem OnlyNotes.runFor_quiet (h : pacer.OnlyNotes) (limit : Int) (interruptIn : Option Nat) :
    pacer.quiet.runFor limit interruptIn =
      ((pacer.runFor limit interruptIn).1, (pacer.runFor limit interruptIn).2.1,
        (pacer.runFor limit interruptIn).2.2.quiet) := by
  have hhalted : pacer.quiet.machine.halted = pacer.machine.halted := rfl
  rw [runFor, runFor, hhalted]
  split
  next => rfl
  next => exact @OnlyNotes.loop_quiet α pacer.started h _ _ _ _

/-- A limit that the first tick reaches. -/
theorem loop_of_reached {limit : Int} {ticks : Nat} (h : limit ≤ ticks + 1) (patience : Nat)
    (interruptIn : Option Nat) (pacer : Pacer α) :
    loop (some limit) (patience + 1) ticks interruptIn pacer =
      match pacer.tick with
      | (.error error, next) => (.refused error, interruptIn, next)
      | (.ok _, next) => (.finished (ticks + 1), interruptIn, next.stop) := by
  rw [loop]
  rcases pacer.tick with ⟨_ | _, next⟩
  · rfl
  · simp [h, stop]

/-- The limit is looked at after a tick, so it allows one in any case. -/
theorem runFor_max_one (pacer : Pacer α) (limit : Int) (interruptIn : Option Nat) :
    pacer.runFor limit interruptIn = pacer.runFor (max 1 limit) interruptIn := by
  by_cases hl : 1 ≤ limit
  · rw [show max 1 limit = limit by omega]
  · have hzero : limit.toNat = 0 := by omega
    have hle : limit ≤ (0 : Nat) + 1 := by omega
    have hone : max 1 limit = 1 := by omega
    rw [hone, runFor, runFor, hzero]
    split
    next => rfl
    next => exact (loop_of_reached hle 0 _ _).trans (loop_of_reached (Int.le_refl _) 0 _ _).symm

end TapeMachine.Pacer
