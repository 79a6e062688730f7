import TapeMachine.Pacer
import TapeMachine.Proofs.Machine.Tries

namespace TapeMachine.Pacer

open Machine

variable {α : Type} {pacer after : Pacer α} {table : Table} {rule : Rule} {missing : Missing}

/-- The pacer after a tick that nobody is told of. -/
def ticked (pacer : Pacer α) : Pacer α :=
  { pacer with
    machine := pacer.machine.step.2
    running := pacer.running && !pacer.machine.step.2.isOver }

/-- A step that is not made leaves a machine that has halted or erred. -/
theorem advance_eq (pacer : Pacer α) :
    pacer.advance = (pacer.machine.step.1, pacer.ticked) := by
  have hover : (!pacer.machine.step.1 || pacer.machine.step.2.halted ||
      pacer.machine.step.2.error.isSome) = pacer.machine.step.2.isOver := by
    obtain ⟨hh, hs⟩ | ⟨missing, _, _, hs⟩ | ⟨rule, _, _, hs⟩ := step_cases pacer.machine
    · rw [hs]
      simp only [isOver, halted, Bool.not_false, Bool.true_or]
      simp only [halted] at hh
      simp [hh]
    · simp [hs, isOver]
    · simp [hs, isOver]
  have he : pacer.advance = (pacer.machine.step.1,
      { pacer with
        machine := pacer.machine.step.2
        running := pacer.running && !(!pacer.machine.step.1 || pacer.machine.step.2.halted ||
          pacer.machine.step.2.error.isSome) }) := rfl
  rw [he, hover]
  rfl

/-- A pacer with no callback after its pause. -/
def paused (pacer : Pacer α) : Pacer α :=
  { pacer with sleeps := pacer.sleeps.push pacer.interval }

@[simp]
theorem callback_paused_ticked (pacer : Pacer α) :
    pacer.ticked.paused.callback = pacer.callback := rfl

theorem loop_succ (h : pacer.callback = none) (limit : Option Int) (patience ticks : Nat) :
    loop limit (patience + 1) ticks none pacer =
      let next := if limit.any (· ≤ (ticks + 1 : Int)) then pacer.ticked.stop else pacer.ticked
      if next.running then loop limit patience (ticks + 1) none next.paused
      else (.finished (ticks + 1), none, next) := by
  have hcall : pacer.ticked.call = (pacer.ticked, none) := by
    have hc : pacer.ticked.callback = none := h
    rw [call, hc]
  have htick : pacer.tick = (.ok pacer.machine.step.1, pacer.ticked) := by
    rw [tick, advance_eq]
    simp only [hcall]
  rw [loop, htick]
  rfl

/-- The last tick of a pacer. -/
theorem loop_of_stopped (h : pacer.callback = none) (hr : pacer.ticked.running = false)
    (limit : Option Int) (patience ticks : Nat) :
    loop limit (patience + 1) ticks none pacer =
      (.finished (ticks + 1), none, pacer.ticked) := by
  have hstop : pacer.ticked.stop = pacer.ticked := by
    rw [stop, ← hr]
  rw [loop_succ h, hstop]
  simp [hr]

/-- A tick that uses up the limit. -/
theorem loop_of_limit (h : pacer.callback = none) (patience ticks : Nat) :
    loop (some (ticks + 1 : Int)) (patience + 1) ticks none pacer =
      (.finished (ticks + 1), none, pacer.ticked.stop) := by
  rw [loop_succ h]
  simp [stop]

theorem loop_of_running (h : pacer.callback = none) (hr : pacer.ticked.running = true)
    {limit : Option Int} {ticks : Nat} (hl : ∀ bound, limit = some bound → ticks + 1 < bound)
    (patience : Nat) :
    loop limit (patience + 1) ticks none pacer =
      loop limit patience (ticks + 1) none pacer.ticked.paused := by
  have hany : limit.any (· ≤ (ticks + 1 : Int)) = false := by
    cases limit with
    | none => rfl
    | some bound => simpa using hl bound rfl
  rw [loop_succ h]
  simp [hany, hr]

/-- The pacer where a plain run of its machine ends, with a pause between two tries. -/
def atEnd (pacer : Pacer α) (budget : Nat) : Pacer α :=
  { pacer with
    machine := (Machine.runFor 0 budget pacer.machine).2
    running := false
    sleeps := pacer.sleeps ++ Array.replicate (pacer.machine.tries budget - 1) pacer.interval }

/-- Where one try is all there is, it leaves the pacer without a pause. -/
theorem atEnd_of_one_try {budget : Nat} (ht : pacer.machine.tries budget = 1)
    (hm : (Machine.runFor 0 budget pacer.machine).2 = pacer.machine.step.2) :
    pacer.atEnd budget = pacer.ticked.stop := by
  simp [atEnd, ht, hm, ticked, stop]

theorem atEnd_of_rule (hh : pacer.machine.halted = false)
    (hm : pacer.machine.configuration.rule? pacer.machine.table = .ok rule) {budget : Nat}
    (hb : 0 < pacer.machine.step.2.tries budget) :
    pacer.atEnd (budget + 1) = pacer.ticked.paused.atEnd budget := by
  obtain ⟨tries, ht⟩ := Nat.exists_eq_add_of_lt hb
  rw [Nat.zero_add] at ht
  have hsleeps : pacer.sleeps ++ Array.replicate (tries + 1) pacer.interval =
      pacer.sleeps.push pacer.interval ++ Array.replicate tries pacer.interval := by
    apply Array.ext'
    simp [List.replicate_succ]
  have htick : pacer.ticked.machine = pacer.machine.step.2 := rfl
  simp only [atEnd, paused, htick, runFor_of_rule hh hm, tries_of_rule hh hm, ht,
    Nat.add_sub_cancel, hsleeps]
  rfl

theorem running_ticked (hr : pacer.running = true) :
    pacer.ticked.running = !pacer.machine.step.2.isOver := by
  simp [ticked, hr]

theorem stop_eq_self (h : pacer.running = false) : pacer.stop = pacer := by
  rw [stop, ← h]

theorem loop_of_isOver (hs : pacer.machine.Sound table) (hh : pacer.machine.halted = false)
    (hc : pacer.callback = none) (ho : pacer.machine.step.2.isOver = true) (limit : Option Int)
    (patience ticks budget : Nat) :
    loop limit (patience + 1) ticks none pacer =
      (.finished (ticks + pacer.machine.tries (budget + 1)), none, pacer.atEnd (budget + 1)) := by
  have hr : pacer.ticked.running = false := by simp [ticked, ho]
  obtain ⟨htries, hmachine⟩ := hs.run_of_isOver hh ho budget
  rw [loop_of_stopped hc hr, atEnd_of_one_try htries hmachine, htries, stop_eq_self hr]

/-- A loop is at its end where the plain run with the rest of the limit is, and one without a limit
where a plain run comes to its end by itself. -/
theorem loop_eq_atEnd (hs : pacer.machine.Sound table) (hh : pacer.machine.halted = false)
    (hc : pacer.callback = none) (hr : pacer.running = true) {limit : Option Int}
    {budget ticks : Nat}
    (hl : limit = some (ticks + budget + 1 : Int) ∨
      limit = none ∧ (Machine.runFor 0 (budget + 1) pacer.machine).2.isOver = true) :
    loop limit (budget + 1) ticks none pacer =
      (.finished (ticks + pacer.machine.tries (budget + 1)), none, pacer.atEnd (budget + 1)) := by
  -- The limit is what the ticks and the tries left come to, so it stays the same along the loop.
  induction budget generalizing pacer ticks with
  | zero =>
    cases ho : pacer.machine.step.2.isOver with
    | true => exact loop_of_isOver hs hh hc ho _ 0 ticks 0
    | false =>
      obtain ⟨rule, hm⟩ := rule_of_not_isOver hh ho
      have htries : pacer.machine.tries (0 + 1) = 1 := by rw [tries_of_rule hh hm, tries_zero]
      have hmachine : (Machine.runFor 0 (0 + 1) pacer.machine).2 = pacer.machine.step.2 := by
        rw [runFor_of_rule hh hm]
        rfl
      obtain rfl | ⟨_, hover⟩ := hl
      · rw [atEnd_of_one_try htries hmachine, htries]
        exact loop_of_limit hc 0 ticks
      · rw [hmachine, ho] at hover
        cases hover
  | succ budget ih =>
    cases ho : pacer.machine.step.2.isOver with
    | true => exact loop_of_isOver hs hh hc ho _ (budget + 1) ticks (budget + 1)
    | false =>
      obtain ⟨rule, hm⟩ := rule_of_not_isOver hh ho
      have hn : pacer.machine.step.2.halted = false := (hs.isOver_step hm hh).symm.trans ho
      have hrun : pacer.ticked.running = true := by rw [running_ticked hr, ho]; rfl
      have hlimit : limit = some ((ticks + 1 : Nat) + budget + 1 : Int) ∨ limit = none ∧
          (Machine.runFor 0 (budget + 1) pacer.ticked.paused.machine).2.isOver = true := by
        rw [runFor_of_rule hh hm] at hl
        refine hl.imp_left fun he => he.trans (congrArg some ?_)
        omega
      have hcount : ticks + 1 + pacer.ticked.paused.machine.tries (budget + 1) =
          ticks + pacer.machine.tries (budget + 1 + 1) := by
        rw [tries_of_rule hh hm, Nat.add_assoc, Nat.add_comm 1]
        rfl
      have hbound : ∀ bound, limit = some bound → ticks + 1 < bound := by
        rintro bound rfl
        obtain he | ⟨he, _⟩ := hl
        · cases he
          omega
        · cases he
      rw [loop_of_running hc hrun hbound, atEnd_of_rule hh hm (tries_pos hn budget), ← hcount]
      exact @ih pacer.ticked.paused hs.step hn hc hrun (ticks + 1) hlimit

theorem lt_of_loop_finished (hc : pacer.callback = none) {patience ticks total : Nat}
    {interruptIn : Option Nat}
    (h : loop none patience ticks none pacer = (.finished total, interruptIn, after)) :
    ticks < total := by
  induction patience generalizing pacer ticks with
  | zero => simp [loop] at h
  | succ patience ih =>
    cases hr : pacer.ticked.running with
    | false =>
      rw [loop_of_stopped hc hr] at h
      cases h
      exact Nat.lt_succ_self ticks
    | true =>
      rw [loop_of_running hc hr (by simp)] at h
      exact Nat.lt_of_succ_lt (ih (by simpa using hc) h)

/-- A limit that is not reached makes no difference. -/
theorem loop_of_unlimited (hc : pacer.callback = none) {patience ticks total : Nat}
    {interruptIn : Option Nat}
    (h : loop none patience ticks none pacer = (.finished total, interruptIn, after)) {budget : Nat}
    (hb : total ≤ ticks + budget) :
    loop (some (ticks + budget : Int)) budget ticks none pacer =
      (.finished total, interruptIn, after) := by
  induction patience generalizing pacer ticks budget with
  | zero => simp [loop] at h
  | succ patience ih =>
    -- A tick that does not end the loop leaves at least one to come, so the limit is not met yet.
    have hlt := lt_of_loop_finished hc h
    have hpos : 1 ≤ budget := by omega
    obtain ⟨rest, rfl⟩ := Nat.exists_eq_add_of_le' hpos
    cases hr : pacer.ticked.running with
    | false =>
      rw [loop_of_stopped hc hr] at h ⊢
      exact h
    | true =>
      rw [loop_of_running hc hr (by simp)] at h
      have hp : pacer.ticked.paused.callback = none := by simpa using hc
      have hnext := lt_of_loop_finished hp h
      have hlimit : ((ticks + 1 : Nat) + rest : Int) = ticks + (rest + 1 : Nat) := by omega
      have hbound : ∀ bound, some (ticks + (rest + 1 : Nat) : Int) = some bound →
          ticks + 1 < bound := by
        rintro bound he
        cases he
        omega
      rw [loop_of_running hc hr hbound, ← hlimit]
      exact ih hp h (by omega)

/-- What a pacer that has run a machine without a callback has in common with a plain run. -/
structure EndsAs (machine : Machine) (interval budget ticks : Nat) (after : Pacer α) : Prop where
  machine_eq : after.machine = (machine.run budget).2
  ticks_eq : ticks = (machine.run budget).1 + (machine.missed budget).toNat
  missed_eq : machine.missed budget = after.machine.error.isSome
  stopped : after.running = false
  sleeps_eq : after.sleeps = Array.replicate (ticks - 1) interval

theorem endsAs_of_halted (h : pacer.machine.Sound table) (hh : pacer.machine.halted = true)
    (hr : pacer.running = false) (hz : pacer.sleeps = #[]) (budget : Nat) :
    EndsAs pacer.machine pacer.interval budget 0 pacer where
  machine_eq := by rw [Machine.run, runFor_of_halted hh]
  ticks_eq := (tries_of_halted hh budget).symm
  missed_eq := by simp [missed, runFor_of_halted hh, hh, h.error_of_halted hh]
  stopped := hr
  sleeps_eq := hz

theorem endsAs_atEnd (h : pacer.machine.Sound table) (hz : pacer.sleeps = #[]) (budget : Nat) :
    EndsAs pacer.machine pacer.interval (budget + 1) (pacer.machine.tries (budget + 1))
      (pacer.atEnd (budget + 1)) where
  machine_eq := rfl
  ticks_eq := rfl
  missed_eq := h.missed_eq (.inr (Nat.succ_ne_zero budget))
  stopped := rfl
  sleeps_eq := by simp [atEnd, hz]

def started (pacer : Pacer α) : Pacer α :=
  { pacer with running := true }

theorem runFor_eq_loop (hh : pacer.machine.halted = false) {budget : Nat} (hb : 1 ≤ budget) :
    pacer.runFor budget = loop (some (budget : Int)) budget 0 none pacer.started := by
  have hmax : max 1 (budget : Int).toNat = budget := by omega
  rw [runFor, if_neg (by simp [hh]), hmax]
  rfl

theorem runWithin_eq_loop (hh : pacer.machine.halted = false) (patience : Nat) :
    pacer.runWithin patience = ((loop none patience 0 none pacer.started).1,
      (loop none patience 0 none pacer.started).2.2) := by
  rw [runWithin, if_neg (by simp [hh])]
  rfl

theorem runFor_endsAs (hs : pacer.machine.Sound table) (hc : pacer.callback = none)
    (hr : pacer.running = false) (hz : pacer.sleeps = #[]) {budget : Nat} (hb : 1 ≤ budget) :
    ∃ ticks after, pacer.runFor budget = (.finished ticks, none, after) ∧
      EndsAs pacer.machine pacer.interval budget ticks after := by
  cases hh : pacer.machine.halted with
  | true => exact ⟨0, pacer, by rw [runFor, if_pos hh], endsAs_of_halted hs hh hr hz budget⟩
  | false =>
    obtain ⟨rest, rfl⟩ := Nat.exists_eq_add_of_le' hb
    have hlimit : ((rest + 1 : Nat) : Int) = (0 : Nat) + rest + 1 := by omega
    have hloop := @loop_eq_atEnd α pacer.started table hs hh hc rfl
      (some ((0 : Nat) + rest + 1 : Int)) rest 0 (.inl rfl)
    rw [runFor_eq_loop hh hb, hlimit, hloop, Nat.zero_add]
    exact ⟨_, _, rfl, endsAs_atEnd hs hz rest⟩

theorem runWithin_endsAs (hs : pacer.machine.Sound table) (hc : pacer.callback = none)
    (hr : pacer.running = false) (hz : pacer.sleeps = #[]) {patience ticks : Nat}
    (h : pacer.runWithin patience = (.finished ticks, after)) {budget : Nat} (hb : 1 ≤ budget)
    (ht : ticks ≤ budget) : EndsAs pacer.machine pacer.interval budget ticks after := by
  cases hh : pacer.machine.halted with
  | true =>
    rw [runWithin, if_pos hh] at h
    cases h
    exact endsAs_of_halted hs hh hr hz budget
  | false =>
    rw [runWithin_eq_loop hh] at h
    obtain ⟨hending, hafter⟩ := Prod.mk.inj h
    have hunlimited : loop none patience 0 none pacer.started =
        (.finished ticks, (loop none patience 0 none pacer.started).2.1, after) := by
      rw [← hending, ← hafter]
    have hloop := @loop_of_unlimited α pacer.started after hc patience 0 ticks _ hunlimited budget
      (by omega)
    obtain ⟨total, other, hrun, hends⟩ := runFor_endsAs hs hc hr hz hb
    rw [runFor_eq_loop hh hb] at hrun
    have hzero : ((0 : Nat) + budget : Int) = budget := by omega
    rw [hzero, hrun] at hloop
    obtain ⟨htotal, hrest⟩ := Prod.mk.inj hloop
    cases htotal
    rwa [← (Prod.mk.inj hrest).2]

theorem runWithin_of_isOver (hs : pacer.machine.Sound table) (hc : pacer.callback = none)
    {budget : Nat} (hb : 1 ≤ budget) (ho : (pacer.machine.run budget).2.isOver = true) :
    ∃ ticks after, pacer.runWithin budget = (.finished ticks, after) := by
  cases hh : pacer.machine.halted with
  | true => exact ⟨0, pacer, by rw [runWithin, if_pos hh]⟩
  | false =>
    obtain ⟨rest, rfl⟩ := Nat.exists_eq_add_of_le' hb
    have hloop := @loop_eq_atEnd α pacer.started table hs hh hc rfl none rest 0 (.inr ⟨rfl, ho⟩)
    rw [runWithin_eq_loop hh, hloop]
    exact ⟨_, _, rfl⟩

/-- A pacer nobody listens to runs a machine as far as a plain run does, and tries once more only
where a rule is missing. -/
theorem paced_run_ends_as_plain_run {α : Type} (h : table.rules ≠ []) :
    ∃ fresh, Machine.ofTable? table = some fresh ∧
      ∀ (calls : List Call) (speed : Int), 1 ≤ speed → speed ≤ 100 →
        let machine := fresh.afterCalls calls
        ∃ pacer : Pacer α, start machine speed none = .ok pacer ∧
          (pacer.interval : Int) = 1000 - speed * 9 ∧
          (∀ budget : Nat, 1 ≤ budget → ∃ ticks after,
            pacer.runFor budget = (.finished ticks, none, after) ∧
              EndsAs machine pacer.interval budget ticks after) ∧
          (∀ patience ticks after, pacer.runWithin patience = (.finished ticks, after) →
            ∃ bound, ∀ budget ≥ bound, EndsAs machine pacer.interval budget ticks after) ∧
          ∀ budget : Nat, 1 ≤ budget → (machine.run budget).2.isOver = true →
            ∃ ticks after, pacer.runWithin budget = (.finished ticks, after) := by
  obtain ⟨fresh, hf⟩ := ofTable?_exists h
  refine ⟨fresh, hf, fun calls speed hlow hhigh => ?_⟩
  intro machine
  have sound : machine.Sound table := sound_afterCalls hf calls
  have hpause : pause speed = .ok (1000 - speed * 9).toNat := if_pos ⟨hlow, hhigh⟩
  refine ⟨{ machine, speed, interval := (1000 - speed * 9).toNat }, ?_, ?_, ?_, ?_, ?_⟩
  · rw [start, hpause]
    rfl
  · simp only
    omega
  · exact fun budget hb => runFor_endsAs sound rfl rfl rfl hb
  · exact fun patience ticks after hw => ⟨max 1 ticks, fun budget hb =>
      runWithin_endsAs sound rfl rfl rfl hw (by omega) (by omega)⟩
  · exact fun budget hb ho => runWithin_of_isOver sound rfl hb ho

/-- Three steps are made with two pauses, and a fourth try finds no rule. -/
theorem paced_run_ends_as_plain_run_stuck :
    let table : Table :=
      { rules := [⟨"s", .one "0", some "1", .right, "s"⟩]
        initialState := "s"
        initialTape := ["0", "0", "0"] }
    table.rules ≠ [] ∧ ∃ fresh, Machine.ofTable? table = some fresh ∧
      ∃ pacer : Pacer Unit, start fresh 100 none = .ok pacer ∧
        ∃ ticks after, pacer.runFor (9 : Nat) = (.finished ticks, none, after) ∧
          EndsAs fresh pacer.interval 9 ticks after ∧ fresh.missed 9 = true ∧ ticks = 4 ∧
          after.sleeps = #[100, 100, 100] := by
  intro table
  have h : table.rules ≠ [] := by decide
  obtain ⟨fresh, hf, paced⟩ := paced_run_ends_as_plain_run (α := Unit) h
  obtain ⟨pacer, hp, hi, limited, _⟩ := paced [] 100 (by decide) (by decide)
  obtain ⟨ticks, after, hrun, ends⟩ := limited 9 (by decide)
  have hmissed : fresh.missed 9 = true := by
    cases Option.some.inj hf
    decide
  have hticks : ticks = 4 := by
    have ht := ends.ticks_eq
    cases Option.some.inj hf
    exact ht.trans (by decide)
  refine ⟨h, fresh, hf, pacer, hp, ticks, after, hrun, ends, hmissed, hticks, ?_⟩
  have hinterval : pacer.interval = 100 := by omega
  rw [ends.sleeps_eq, hticks, hinterval]
  rfl

end TapeMachine.Pacer
