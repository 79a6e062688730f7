import TapeMachine.Proofs.Pacer.PlainRun

namespace TapeMachine

namespace Action

/-- An action that is not refused. -/
def Allowed : Action → Prop
  | .setSpeed speed => 1 ≤ speed ∧ speed ≤ 100
  | _ => True

/-- The speed in force after an action. -/
def speedAfter (speed : Int) : Action → Int
  | .setSpeed new => new
  | _ => speed

def machineAfter (machine : Machine) : Action → Machine
  | .reset => machine.reset
  | _ => machine

end Action

namespace Pacer

open Machine

variable {α : Type} {machine : Machine} {speed : Int} {callback : Callback α} {table : Table}
variable {actions : List Action} {script : Nat → List Action}

/-- The machine after so many ticks, each followed by what the script says of it. -/
def machineAt (machine : Machine) (script : Nat → List Action) : Nat → Machine
  | 0 => machine
  | n + 1 => (script (n + 1)).foldl Action.machineAfter (machineAt machine script n).step.2

/-- The speed in force after so many callbacks. -/
def speedAt (speed : Int) (script : Nat → List Action) : Nat → Int
  | 0 => speed
  | n + 1 => (script (n + 1)).foldl Action.speedAfter (speedAt speed script n)

/-- Whether a tick is the last one for another reason than the limit. -/
def endsAt (machine : Machine) (script : Nat → List Action) : Nat → Bool
  | 0 => false
  | n + 1 =>
    let tried := (machineAt machine script n).step
    (!tried.1 || tried.2.halted || tried.2.error.isSome) || (script (n + 1)).contains .stop

/-- The pacer while it runs, after so many ticks and pauses. -/
def stage (machine : Machine) (speed : Int) (callback : Callback α) (ticks pauses : Nat) :
    Pacer α where
  machine := machineAt machine callback.actions ticks
  speed := speedAt speed callback.actions ticks
  interval := (1000 - speedAt speed callback.actions ticks * 9).toNat
  running := true
  callback := some callback
  notes := ((List.range ticks).map fun n =>
    callback.note (machineAt machine callback.actions n).step.2).toArray
  sleeps := ((List.range pauses).map fun n =>
    (1000 - speedAt speed callback.actions (n + 1) * 9).toNat).toArray

theorem pause_of_allowed (h : 1 ≤ speed ∧ speed ≤ 100) :
    pause speed = .ok (1000 - speed * 9).toNat :=
  if_pos h

/-- What allowed actions come to when they are carried out one after the other. -/
theorem act_eq (h : ∀ action ∈ actions, action.Allowed) {pacer : Pacer α}
    (hi : pacer.interval = (1000 - pacer.speed * 9).toNat) :
    pacer.act actions =
      ({ pacer with
        machine := actions.foldl Action.machineAfter pacer.machine
        speed := actions.foldl Action.speedAfter pacer.speed
        interval := (1000 - actions.foldl Action.speedAfter pacer.speed * 9).toNat
        running := pacer.running && !actions.contains .stop }, none) := by
  induction actions generalizing pacer with
  | nil => simp [act, ← hi]
  | cons action actions ih =>
    obtain ⟨hone, hrest⟩ := List.forall_mem_cons.mp h
    cases action with
    | stop =>
      have hact : pacer.act (.stop :: actions) = pacer.stop.act actions := rfl
      rw [hact, @ih hrest pacer.stop hi]
      simp [stop, Action.machineAfter, Action.speedAfter]
    | reset =>
      have hact : pacer.act (.reset :: actions) = pacer.resetMachine.act actions := rfl
      rw [hact, @ih hrest pacer.resetMachine hi]
      simp [resetMachine, Action.machineAfter, Action.speedAfter]
    | setSpeed new =>
      have hset : pacer.setSpeed new =
          .ok { pacer with speed := new, interval := (1000 - new * 9).toNat } := by
        rw [setSpeed, pause_of_allowed hone]
        rfl
      rw [act, hset]
      simp only
      rw [ih hrest rfl]
      simp [Action.machineAfter, Action.speedAfter]

/-- One step of the machine, one call and what it asks for. -/
theorem tick_stage (h : ∀ i, ∀ action ∈ callback.actions i, action.Allowed) (ticks pauses : Nat) :
    (stage machine speed callback ticks pauses).tick =
      (.ok (machineAt machine callback.actions ticks).step.1,
        { stage machine speed callback (ticks + 1) pauses with
          running := !endsAt machine callback.actions (ticks + 1) }) := by
  have hnotes : (stage machine speed callback (ticks + 1) pauses).notes =
      (stage machine speed callback ticks pauses).notes.push
        (callback.note (machineAt machine callback.actions ticks).step.2) := by
    simp [stage, List.range_succ]
  have hsize : ((stage machine speed callback ticks pauses).notes.push
      (callback.note (machineAt machine callback.actions ticks).step.2)).size = ticks + 1 := by
    simp [stage]
  have hact := fun pacer hi => @act_eq α _ (h (ticks + 1)) pacer hi
  have hadvance : (stage machine speed callback ticks pauses).advance =
      ((machineAt machine callback.actions ticks).step.1,
        { stage machine speed callback ticks pauses with
          machine := (machineAt machine callback.actions ticks).step.2
          running := !(!(machineAt machine callback.actions ticks).step.1 ||
            (machineAt machine callback.actions ticks).step.2.halted ||
            (machineAt machine callback.actions ticks).step.2.error.isSome) }) := rfl
  rw [tick, hadvance]
  simp only [call]
  have hcallback : (stage machine speed callback ticks pauses).callback = some callback := rfl
  simp only [hcallback, hsize]
  rw [hact _ rfl]
  simp only [endsAt, Bool.not_or]
  rw [← hnotes]
  rfl

theorem stage_paused (ticks : Nat) :
    { stage machine speed callback (ticks + 1) ticks with
      sleeps := (stage machine speed callback (ticks + 1) ticks).sleeps.push
        (stage machine speed callback (ticks + 1) ticks).interval } =
      stage machine speed callback (ticks + 1) (ticks + 1) := by
  simp [stage, List.range_succ]

/-- The pacer at the end of a run of so many ticks: there is no pause after the last one. -/
def final (machine : Machine) (speed : Int) (callback : Callback α) (ticks : Nat) : Pacer α :=
  (stage machine speed callback ticks (ticks - 1)).stop

theorem loop_of_endsAt (h : ∀ i, ∀ action ∈ callback.actions i, action.Allowed)
    {patience ticks : Nat} (limit : Int)
    (he : endsAt machine callback.actions (ticks + 1) = true ∨ limit ≤ ticks + 1) :
    loop (some limit) (patience + 1) ticks none (stage machine speed callback ticks ticks) =
      (.finished (ticks + 1), none, final machine speed callback (ticks + 1)) := by
  rw [loop, tick_stage h]
  by_cases hl : limit ≤ ticks + 1
  · simp [hl, stop, final]
  · simp [hl, he.resolve_right hl, stop, final]

theorem loop_of_not_endsAt (h : ∀ i, ∀ action ∈ callback.actions i, action.Allowed)
    {patience ticks : Nat} {limit : Int}
    (he : endsAt machine callback.actions (ticks + 1) = false) (hl : ticks + 1 < limit) :
    loop (some limit) (patience + 1) ticks none (stage machine speed callback ticks ticks) =
      loop (some limit) patience (ticks + 1) none
        (stage machine speed callback (ticks + 1) (ticks + 1)) := by
  have hlimit : ¬ limit ≤ ticks + 1 := by omega
  rw [loop, tick_stage h, ← stage_paused]
  simp [hlimit, he, sleep]
  rfl

/-- What a run comes to from one of its stages on. The induction is on the ticks that are left. -/
theorem loop_stage (h : ∀ i, ∀ action ∈ callback.actions i, action.Allowed) (left ticks : Nat) :
    ∃ total, ticks < total ∧ total ≤ ticks + (left + 1) ∧
      (∀ i, ticks < i → i < total → endsAt machine callback.actions i = false) ∧
      (total < ticks + (left + 1) → endsAt machine callback.actions total = true) ∧
      loop (some (ticks + (left + 1) : Nat)) (left + 1) ticks none
          (stage machine speed callback ticks ticks) =
        (.finished total, none, final machine speed callback total) := by
  induction left generalizing ticks with
  | zero =>
    refine ⟨ticks + 1, by omega, by omega, by omega, by omega, ?_⟩
    exact loop_of_endsAt h _ (.inr (by omega))
  | succ left ih =>
    cases he : endsAt machine callback.actions (ticks + 1) with
    | true =>
      refine ⟨ticks + 1, by omega, by omega, by omega, fun _ => he, ?_⟩
      exact loop_of_endsAt h _ (.inl he)
    | false =>
      -- This tick ends nothing, so the first that does is among those that follow.
      obtain ⟨total, hlow, hhigh, hbefore, hlast, hloop⟩ := ih (ticks + 1)
      have hleft : ticks + 1 + (left + 1) = ticks + (left + 1 + 1) := by omega
      rw [hleft] at hhigh hlast hloop
      refine ⟨total, by omega, hhigh, fun i hi ht => ?_, hlast, ?_⟩
      · obtain rfl | hi := Nat.eq_or_lt_of_le hi
        · exact he
        · exact hbefore i hi ht
      · rw [loop_of_not_endsAt h he (by omega), hloop]

theorem speedAfter_bounds (h : ∀ action ∈ actions, action.Allowed)
    (hs : 1 ≤ speed ∧ speed ≤ 100) :
    1 ≤ actions.foldl Action.speedAfter speed ∧ actions.foldl Action.speedAfter speed ≤ 100 := by
  induction actions generalizing speed with
  | nil => exact hs
  | cons action actions ih =>
    obtain ⟨hone, hrest⟩ := List.forall_mem_cons.mp h
    cases action with
    | setSpeed new => exact ih hrest hone
    | stop => exact ih hrest hs
    | reset => exact ih hrest hs

theorem speedAt_bounds (h : ∀ i, ∀ action ∈ script i, action.Allowed)
    (hs : 1 ≤ speed ∧ speed ≤ 100) (n : Nat) :
    1 ≤ speedAt speed script n ∧ speedAt speed script n ≤ 100 := by
  induction n with
  | zero => exact hs
  | succ n ih => exact speedAfter_bounds (h (n + 1)) ih

/-- What a run of so many ticks owes to its callback, its limit and its speeds. -/
structure Obeys (machine : Machine) (speed : Int) (callback : Callback α) (budget ticks : Nat)
    (after : Pacer α) : Prop where
  ticks_pos : 1 ≤ ticks
  ticks_le : ticks ≤ budget
  machine_eq : after.machine = machineAt machine callback.actions ticks
  speed_eq : after.speed = speedAt speed callback.actions ticks
  stopped : after.running = false
  calls_eq : after.notes.size = ticks
  notes_eq : after.notes.toList = (List.range ticks).map fun n =>
    callback.note (machineAt machine callback.actions n).step.2
  sleeps_eq : after.sleeps.toList.map Int.ofNat = (List.range (ticks - 1)).map fun n =>
    1000 - 9 * speedAt speed callback.actions (n + 1)
  stop_last : ∀ i, 1 ≤ i → i ≤ ticks → .stop ∈ callback.actions i → i = ticks
  early : ticks < budget →
    let tried := (machineAt machine callback.actions (ticks - 1)).step
    tried.1 = false ∨ tried.2.halted = true ∨ tried.2.error ≠ none ∨
      .stop ∈ callback.actions ticks

theorem endsAt_of_stop {i : Nat} (hi : 1 ≤ i) (h : .stop ∈ script i) :
    endsAt machine script i = true := by
  obtain ⟨n, rfl⟩ := Nat.exists_eq_add_of_le' hi
  simp [endsAt, h]

theorem reason_of_endsAt {i : Nat} (hi : 1 ≤ i) (h : endsAt machine script i = true) :
    let tried := (machineAt machine script (i - 1)).step
    tried.1 = false ∨ tried.2.halted = true ∨ tried.2.error ≠ none ∨ .stop ∈ script i := by
  obtain ⟨n, rfl⟩ := Nat.exists_eq_add_of_le' hi
  simpa [endsAt, or_assoc, Option.isSome_iff_ne_none] using h

theorem obeys_final (h : ∀ i, ∀ action ∈ callback.actions i, action.Allowed)
    (hs : 1 ≤ speed ∧ speed ≤ 100) {budget ticks : Nat} (hp : 1 ≤ ticks) (hl : ticks ≤ budget)
    (hbefore : ∀ i, 0 < i → i < ticks → endsAt machine callback.actions i = false)
    (hlast : ticks < budget → endsAt machine callback.actions ticks = true) :
    Obeys machine speed callback budget ticks (final machine speed callback ticks) where
  ticks_pos := hp
  ticks_le := hl
  machine_eq := rfl
  speed_eq := rfl
  stopped := rfl
  calls_eq := by simp [final, stage, stop]
  notes_eq := rfl
  sleeps_eq := by
    simp only [final, stage, stop, List.map_map]
    refine List.map_congr_left fun n _ => ?_
    have hbounds := speedAt_bounds h hs (n + 1)
    simp only [Function.comp_apply, Int.ofNat_eq_natCast]
    omega
  stop_last := fun i hi ht hstop => by
    obtain rfl | ht := Nat.eq_or_lt_of_le ht
    · rfl
    · have hnone := hbefore i hi ht
      rw [endsAt_of_stop hi hstop] at hnone
      cases hnone
  early := fun hb => reason_of_endsAt hp (hlast hb)

/-- Whatever a callback does, a run comes to its end within its limit, with one call for each tick
and a pause at the speed in force between two of them. -/
theorem paced_run_obeys_callback {α : Type} (h : table.rules ≠ []) :
    ∃ fresh, Machine.ofTable? table = some fresh ∧
      ∀ (calls : List Call) (speed : Int) (callback : Callback α) (budget : Nat),
        (fresh.afterCalls calls).halted = false → 1 ≤ speed → speed ≤ 100 →
        (∀ i, ∀ action ∈ callback.actions i, action.Allowed) → 1 ≤ budget →
        ∃ pacer, start (fresh.afterCalls calls) speed (some callback) = .ok pacer ∧
          ∃ ticks after, pacer.runFor budget = (.finished ticks, none, after) ∧
            Obeys (fresh.afterCalls calls) speed callback budget ticks after := by
  obtain ⟨fresh, hf⟩ := ofTable?_exists h
  refine ⟨fresh, hf, fun calls speed callback budget hn hlow hhigh hallowed hb => ?_⟩
  have hs : 1 ≤ speed ∧ speed ≤ 100 := ⟨hlow, hhigh⟩
  obtain ⟨left, rfl⟩ : ∃ left, budget = left + 1 := ⟨budget - 1, by omega⟩
  obtain ⟨ticks, hp, hl, hbefore, hlast, hloop⟩ :=
    @loop_stage α (fresh.afterCalls calls) speed callback hallowed left 0
  rw [Nat.zero_add] at hl hlast hloop
  let pacer : Pacer α :=
    { machine := fresh.afterCalls calls
      speed
      interval := (1000 - speed * 9).toNat
      callback := some callback }
  have hstart : start (fresh.afterCalls calls) speed (some callback) = .ok pacer := by
    rw [start, pause_of_allowed hs]
    rfl
  have hrun : pacer.runFor (left + 1 : Nat) =
      (.finished ticks, none, final (fresh.afterCalls calls) speed callback ticks) := by
    rw [runFor_eq_loop hn hb]
    exact hloop
  exact ⟨pacer, hstart, ticks, _, hrun, obeys_final hallowed hs hp hl hbefore hlast⟩

/-- A speed change takes effect in the pause that follows it, a reset has the machine start again,
and the third call is the last one. -/
theorem paced_run_obeys_callback_stop :
    let table : Table :=
      { rules := [⟨"s", .one "0", some "1", .right, "s"⟩]
        initialState := "s"
        initialTape := ["0", "0"] }
    let callback : Callback Int :=
      { note := fun machine => machine.configuration.steps
        actions := fun
          | 1 => [.setSpeed 100]
          | 2 => [.reset, .setSpeed 1]
          | 3 => [.stop]
          | _ => [] }
    table.rules ≠ [] ∧ ∃ fresh, Machine.ofTable? table = some fresh ∧ fresh.halted = false ∧
      (∀ i, ∀ action ∈ callback.actions i, action.Allowed) ∧
      ∃ pacer, start fresh 50 (some callback) = .ok pacer ∧
        ∃ ticks after, pacer.runFor (9 : Nat) = (.finished ticks, none, after) ∧
          Obeys fresh 50 callback 9 ticks after ∧ ticks = 3 ∧
          after.notes = #[1, 2, 1] ∧ after.sleeps = #[100, 991] := by
  intro table callback
  have h : table.rules ≠ [] := by decide
  have hallowed : ∀ i, ∀ action ∈ callback.actions i, action.Allowed := by
    intro i
    match i with
    | 0 => simp [callback]
    | 1 => simp [callback, Action.Allowed]
    | 2 => simp [callback, Action.Allowed]
    | 3 => simp [callback, Action.Allowed]
    | _ + 4 => simp [callback]
  obtain ⟨fresh, hf, paced⟩ := paced_run_obeys_callback (α := Int) h
  have hn : fresh.halted = false := by
    cases Option.some.inj hf
    rfl
  obtain ⟨pacer, hp, ticks, after, hrun, obeys⟩ :=
    paced [] 50 callback 9 hn (by decide) (by decide) hallowed (by decide)
  have hticks : ticks = 3 := by
    have hlow := obeys.ticks_pos
    have hstop : 3 ≤ ticks → 3 = ticks := fun hl => obeys.stop_last 3 (by decide) hl (by decide)
    have hearly := obeys.early
    cases Option.some.inj hf
    by_contra hne
    obtain rfl | rfl : ticks = 1 ∨ ticks = 2 := by omega
    · exact absurd (hearly (by decide)) (by decide)
    · exact absurd (hearly (by decide)) (by decide)
  refine ⟨h, fresh, hf, hn, hallowed, pacer, hp, ticks, after, hrun, obeys, hticks, ?_, ?_⟩
  · have hnotes := obeys.notes_eq
    rw [hticks] at hnotes
    cases Option.some.inj hf
    exact Array.ext' hnotes
  · have hsleeps := obeys.sleeps_eq
    rw [hticks] at hsleeps
    have hcast : after.sleeps.toList = [100, 991] :=
      (List.map_inj_right fun _ _ => Int.ofNat.inj).mp hsleeps
    exact Array.ext' hcast

end Pacer

end TapeMachine
