import TapeMachine.Machine

namespace TapeMachine

/-- A speed outside 1 to 100. -/
structure SpeedError where
  speed : Int
  deriving DecidableEq, Repr

def SpeedError.message (error : SpeedError) : String :=
  s!"Speed must be between 1 and 100, got {error.speed}"

/-- The pause after a step in milliseconds, from 991 at speed 1 down to 100 at speed 100. -/
def pause (speed : Int) : Except SpeedError Nat :=
  if 1 ≤ speed ∧ speed ≤ 100 then .ok (1000 - speed * 9).toNat else .error ⟨speed⟩

/-- What a callback may do to the run that calls it. -/
inductive Action where
  | stop
  | setSpeed (speed : Int)
  | reset
  deriving DecidableEq, Repr

/-- Called after every tick: notes something about the machine, then acts as the number of the
call says. -/
structure Callback (α : Type) where
  note : Machine → α
  actions : Nat → List Action := fun _ => []

/-- A machine that is stepped at a steady pace. -/
structure Pacer (α : Type) where
  machine : Machine
  speed : Int
  interval : Nat
  running : Bool := false
  callback : Option (Callback α) := none
  notes : Array α := #[]
  sleeps : Array Nat := #[]

namespace Pacer

variable {α : Type}

def start (machine : Machine) (speed : Int) (callback : Option (Callback α)) :
    Except SpeedError (Pacer α) :=
  (pause speed).map fun interval => { machine, speed, interval, callback }

def setSpeed (pacer : Pacer α) (speed : Int) : Except SpeedError (Pacer α) :=
  (pause speed).map fun interval => { pacer with speed, interval }

def stop (pacer : Pacer α) : Pacer α :=
  { pacer with running := false }

def resetMachine (pacer : Pacer α) : Pacer α :=
  { pacer with machine := pacer.machine.reset }

/-- Carries out actions up to the first one refused. -/
def act (pacer : Pacer α) : List Action → Pacer α × Option SpeedError
  | [] => (pacer, none)
  | .stop :: rest => act pacer.stop rest
  | .reset :: rest => act pacer.resetMachine rest
  | .setSpeed speed :: rest =>
    match pacer.setSpeed speed with
    | .ok pacer => act pacer rest
    | .error error => (pacer, some error)

def call (pacer : Pacer α) : Pacer α × Option SpeedError :=
  match pacer.callback with
  | none => (pacer, none)
  | some callback =>
    let noted := { pacer with notes := pacer.notes.push (callback.note pacer.machine) }
    noted.act (callback.actions noted.notes.size)

/-- A step that ends the run unless it leaves a machine that can go on. -/
def advance : Pacer α → Bool × Pacer α
  | ⟨machine, speed, interval, running, callback, notes, sleeps⟩ =>
    let (advanced, machine) := machine.step
    let ends := !advanced || machine.halted || machine.error.isSome
    (advanced, ⟨machine, speed, interval, running && !ends, callback, notes, sleeps⟩)

/-- One step and the callback; whether the machine advanced, or the speed the callback was
refused. -/
def tick (pacer : Pacer α) : Except SpeedError Bool × Pacer α :=
  let (advanced, pacer) := pacer.advance
  match pacer.call with
  | (pacer, none) => (.ok advanced, pacer)
  | (pacer, some error) => (.error error, pacer)

/-- How a run came to its end. -/
inductive Ending where
  | finished (ticks : Nat)
  | refused (error : SpeedError)
  | interrupted
  | outOfPatience
  deriving DecidableEq, Repr

/-- Pauses for the interval in force. The run is interrupted in the pause that `interruptIn` counts
down to. -/
def sleep (pacer : Pacer α) (interruptIn : Option Nat) : Pacer α × Option Nat × Bool :=
  ({ pacer with sleeps := pacer.sleeps.push pacer.interval }, interruptIn.map (· - 1),
    interruptIn == some 1)

/-- Ticks while the pacer runs, with a pause between two of them, at most `patience` times. At
`limit` ticks the run stops. -/
def loop (limit : Option Int) :
    (patience ticks : Nat) → (interruptIn : Option Nat) → Pacer α → Ending × Option Nat × Pacer α
  | 0, _, interruptIn, pacer => (.outOfPatience, interruptIn, pacer)
  | patience + 1, ticks, interruptIn, pacer =>
    match pacer.tick with
    | (.error error, pacer) => (.refused error, interruptIn, pacer)
    | (.ok _, pacer) =>
      let pacer := if limit.any (· ≤ (ticks + 1 : Int)) then pacer.stop else pacer
      if pacer.running then
        match pacer.sleep interruptIn with
        | (pacer, interruptIn, false) => loop limit patience (ticks + 1) interruptIn pacer
        | (pacer, interruptIn, true) => (.interrupted, interruptIn, pacer)
      else (.finished (ticks + 1), interruptIn, pacer)

/-- Runs until the machine halts or errs, the callback stops it, or `limit` ticks are over, of
which there is at least one. A machine that has halted is not run. -/
def runFor (pacer : Pacer α) (limit : Int) (interruptIn : Option Nat := none) :
    Ending × Option Nat × Pacer α :=
  if pacer.machine.halted then (.finished 0, interruptIn, pacer)
  else loop (some limit) (max 1 limit.toNat) 0 interruptIn { pacer with running := true }

/-- Runs without a limit, given up after `patience` ticks. -/
def runWithin (pacer : Pacer α) (patience : Nat) : Ending × Pacer α :=
  if pacer.machine.halted then (.finished 0, pacer)
  else
    let (ending, _, pacer) := loop none patience 0 none { pacer with running := true }
    (ending, pacer)

end Pacer

end TapeMachine
