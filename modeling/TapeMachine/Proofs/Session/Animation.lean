import TapeMachine.Proofs.Configuration.Trace
import TapeMachine.Proofs.Configuration.View
import TapeMachine.Proofs.Console.Alike
import TapeMachine.Proofs.Machine.Budget
import TapeMachine.Proofs.Pacer.Notes
import TapeMachine.Session.Automation

namespace TapeMachine

variable {settings : Settings} {machine fresh : Machine} {table : Table} {desk : Desk}
variable {speed window : Int} {steps : Option Int}

theorem Settings.rangeError?_eq_none (h : settings.rangeError? = none) :
    0 < settings.maxSteps ∧ 0 < settings.tapeWindow := by
  unfold rangeError? at h
  repeat' split at h
  all_goals simp_all

namespace Machine

theorem run_of_nonpos {budget : Int} (h : budget ≤ 0) (machine : Machine) :
    machine.run budget = (0, machine) := by
  rw [run, Int.toNat_of_nonpos h]
  rfl

theorem halted_ofTable? (h : ofTable? table = some fresh) : fresh.halted = false := by
  obtain ⟨start, hs, rfl⟩ := ofTable?_eq_some h
  rw [halted, Configuration.start?_eq_some hs]

theorem run_one (h : ofTable? table = some fresh) : (fresh.run 1).2 = fresh.step.2 := by
  change (runFor 0 (0 + 1) fresh).2 = fresh.step.2
  rw [runFor_succ (halted_ofTable? h)]
  split <;> rfl

/-- A first step is seen: it is counted, or it leaves an error. -/
theorem not_samePlace_run_one (h : ofTable? table = some fresh) :
    ¬SamePlace fresh (fresh.run 1).2 := by
  rw [run_one h]
  intro hplace
  have hhalted := halted_ofTable? h
  obtain ⟨hc, _⟩ | ⟨missing, _, _, he⟩ | ⟨rule, _, _, he⟩ := step_cases fresh
  · simp [hc] at hhalted
  · obtain ⟨start, _, rfl⟩ := ofTable?_eq_some h
    have herror := hplace.error
    rw [he] at herror
    cases herror
  · have hsteps := congrArg Configuration.steps hplace.configuration
    rw [he] at hsteps
    exact absurd hsteps (Int.ne_of_lt (Int.lt_add_one_of_le (Int.le_refl _)))

end Machine

namespace Automation

open DeskTask

variable {automation : Automation}

/-- Where there is no budget above zero, a run that is shown makes its first step all the same. -/
def shownSteps (automation : Automation) (settings : Settings) : Int :=
  max 1 (automation.budget settings)

theorem one_le_budget_iff (h : 0 < settings.maxSteps) :
    1 ≤ automation.budget settings ↔ ∀ n, automation.maxSteps = some n → 0 ≤ n := by
  unfold budget given
  cases automation.maxSteps with
  | none => simpa using Int.add_one_le_iff.mpr h
  | some n =>
    by_cases hn : n = 0
    · simpa [hn, Option.filter] using Int.add_one_le_iff.mpr h
    · simp only [Option.filter, hn, ne_eq, not_false_eq_true, decide_true, if_true,
        Option.getD_some, Option.some.injEq, forall_eq']
      omega

theorem given_some {n : Int} (h : n ≠ 0) : given (some n) = some n := by
  simp [given, Option.filter, h]

theorem budget_some {n : Int} (h : n ≠ 0) (automation : Automation) (settings : Settings) :
    budget { automation with maxSteps := some n } settings = n := by
  rw [budget, given_some h, Option.getD_some]

theorem shownBudget_eq (hw : 0 < window) (hcount : window < Configuration.maxCount)
    (machine : Machine) (budget : Int) : shownBudget machine budget window = budget := by
  obtain ⟨shown, hs⟩ := machine.step.2.board_exists hw hcount
  rw [shownBudget, hs]
  rfl

/-- An animation that nobody interrupts ends where the plain run does, if that makes a step. -/
theorem runAt_animate (hs : machine.Sound table) (hspeed : 1 ≤ speed ∧ speed ≤ 100)
    (hw : 0 < window) (hcount : window < Configuration.maxCount) (hq : desk.interruptIn = none)
    (budget : Int) :
    ∃ (ticks : Nat) (shown : List Shown), (animate machine speed budget window).runAt desk =
      (.ok (.ok (.finished ticks, (machine.run (max 1 budget)).2)),
        { desk with shown := desk.shown ++ shown }) := by
  let callback : Callback (Except ViewError Shown) := { note := (·.board window) }
  let pacer : Pacer (Except ViewError Shown) :=
    { machine, speed, interval := (1000 - speed * 9).toNat, callback := some callback }
  have hstart : Pacer.start machine speed (some callback) = .ok pacer := by
    rw [Pacer.start, pause, if_pos hspeed]
    rfl
  have hnotes : pacer.OnlyNotes := fun _ hc _ => by
    cases hc
    rfl
  have hlimit : ((max 1 budget).toNat : Int) = max 1 budget := by omega
  obtain ⟨ticks, after, hrun, hends⟩ := @Pacer.runFor_endsAs _ pacer.quiet table hs rfl rfl rfl
    (max 1 budget).toNat (by omega)
  rw [hlimit, ← Pacer.runFor_max_one, hnotes.runFor_quiet] at hrun
  obtain ⟨hending, hrest⟩ := Prod.mk.inj hrun
  obtain ⟨hinterrupt, hafter⟩ := Prod.mk.inj hrest
  have hmachine : (pacer.runFor budget none).2.2.machine = (machine.run (max 1 budget)).2 := by
    have hm := hends.machine_eq
    rw [hlimit, ← hafter] at hm
    exact hm
  have hanimate : (animate machine speed budget window).runAt desk =
      (.ok (.ok ((pacer.runFor budget none).1, (pacer.runFor budget none).2.2.machine)),
        { desk with
          interruptIn := (pacer.runFor budget none).2.1
          shown := desk.shown ++
            (pacer.runFor budget none).2.2.notes.toList.filterMap Except.toOption }) := by
    simp only [animate, callback] at hstart ⊢
    rw [hstart, shownBudget_eq hw hcount]
    cases desk
    subst hq
    rfl
  refine ⟨ticks, (pacer.runFor budget none).2.2.notes.toList.filterMap Except.toOption, ?_⟩
  rw [hanimate, hending, hmachine, hinterrupt]
  cases desk
  subst hq
  rfl

/-- Without a speed nothing is shown until the run is over. -/
theorem runAt_play_plain (h : given automation.speed = none) (machine : Machine) (desk : Desk) :
    (automation.play settings machine).runAt desk =
      (.ok (.ok (.finished (machine.run (automation.budget settings)).1,
        (machine.run (automation.budget settings)).2)), desk) := by
  rw [play, h]
  rfl

theorem runAt_play_paced (h : automation.speed = some speed) (hs : machine.Sound table)
    (hspeed : 1 ≤ speed ∧ speed ≤ 100) (hrange : settings.rangeError? = none)
    (hcount : settings.tapeWindow < Configuration.maxCount) (hq : desk.interruptIn = none) :
    ∃ (ticks : Nat) (shown : List Shown), (automation.play settings machine).runAt desk =
      (.ok (.ok (.finished ticks, (machine.run (automation.shownSteps settings)).2)),
        { desk with shown := desk.shown ++ shown }) := by
  have hgiven : given automation.speed = some speed := by
    rw [h, given_some (by omega)]
  rw [play, hgiven]
  exact runAt_animate hs hspeed (Settings.rangeError?_eq_none hrange).2 hcount hq _

/-- Both ways to run come to their end, and with the same machine. -/
def EndAlike (x y : Except SpeedError (Pacer.Ending × Machine)) : Prop :=
  ∃ ticks steps machine, x = .ok (.finished ticks, machine) ∧ y = .ok (.finished steps, machine)

/-- The same run without a speed and with another number of steps. -/
def unshown (automation : Automation) (maxSteps : Option Int) : Automation :=
  { automation with speed := none, maxSteps }

theorem alike_play (h : automation.speed = some speed) (hs : machine.Sound table)
    (hspeed : 1 ≤ speed ∧ speed ≤ 100) (hrange : settings.rangeError? = none)
    (hcount : settings.tapeWindow < Configuration.maxCount)
    (hn : (automation.unshown steps).budget settings = automation.shownSteps settings) :
    Alike EndAlike (automation.play settings machine)
      ((automation.unshown steps).play settings machine) := by
  intro a b hab
  obtain ⟨ticks, shown, hpaced⟩ := runAt_play_paced h hs hspeed hrange hcount hab.first
  rw [hpaced, runAt_play_plain rfl, hn]
  exact ⟨.ok ⟨_, _, _, rfl, rfl⟩, hab.files, hab.day, hab.first, hab.second⟩

theorem alike_showWarnings (program : Program) :
    Alike Eq (Session.showWarnings program) (Session.showWarnings program) :=
  alike_forM fun _ _ => alike_showLine _ _

theorem alike_showEnd (machine : Machine) (window : Int) :
    Alike Eq (showEnd machine window) (showEnd machine window) :=
  ((alike_attempt _).andThen fun _ => alike_showAll _ _).andThen fun _ => alike_showLine _ _

theorem alike_writeGraph (automation : Automation) (settings : Settings) (machine : Machine) :
    Alike Eq (automation.writeGraph settings machine)
      (automation.writeGraph settings machine) := by
  unfold writeGraph
  split
  · exact alike_pure rfl
  · exact alike_pure rfl
  · exact (alike_onFiles _).andThen fun _ => alike_showMarked _

theorem alike_finish (automation : Automation) (settings : Settings) (machine : Machine) :
    Alike Eq (automation.finish settings machine) (automation.finish settings machine) :=
  (alike_writeGraph automation settings machine).andThen fun _ => alike_pure rfl

/-- What is left to do after the run is up to the machine alone. -/
theorem alike_run (h : automation.speed = some speed) (hspeed : 1 ≤ speed ∧ speed ≤ 100)
    (hrange : settings.rangeError? = none)
    (hcount : settings.tapeWindow < Configuration.maxCount)
    (hn : (automation.unshown steps).budget settings = automation.shownSteps settings) :
    Alike Eq (automation.run settings) ((automation.unshown steps).run settings) := by
  refine (alike_onFiles _).andThen fun program => ?_
  refine (alike_showWarnings program).andThen fun _ => ?_
  refine alike_get.bind fun a b hab => ?_
  rw [hab.day]
  refine (alike_onFiles _).andThen fun _ => ?_
  split
  next => exact (alike_showLine _ _).andThen fun _ => alike_pure rfl
  next machine hm =>
    refine (alike_onFiles _).andThen fun _ => ?_
    change Alike Eq (if automation.runs then _ else _) (if automation.runs then _ else _)
    split
    next =>
      refine (alike_play h (Machine.sound_ofTable? hm) hspeed hrange hcount hn).bind ?_
      rintro x y ⟨ticks, steps, after, rfl, rfl⟩
      refine (alike_onFiles _).andThen fun _ => ?_
      refine (alike_showEnd after settings.tapeWindow).andThen fun _ => ?_
      exact alike_finish automation settings after
    next => exact alike_finish automation settings machine

/-- A run that is shown ends as the plain run does, and where it does, unless the number of steps
asked for is below zero. Then the plain run makes none, and the animation makes one. -/
theorem animated_run_ends_as_plain_run (h : table.rules ≠ [])
    (hrange : settings.rangeError? = none) (hcount : settings.tapeWindow < Configuration.maxCount)
    (hspeed : 1 ≤ speed ∧ speed ≤ 100) (hq : desk.interruptIn = none) (automation : Automation) :
    let plain := { automation with speed := none }
    let paced := { automation with speed := some speed }
    let asked := ∀ n, automation.maxSteps = some n → 0 ≤ n
    let alike := fun other : Automation =>
      ((paced.run settings).runAt desk).1 = ((other.run settings).runAt desk).1 ∧
        ((paced.run settings).runAt desk).2.files = ((other.run settings).runAt desk).2.files
    ∃ fresh, Machine.ofTable? table = some fresh ∧
      ∃ (steps ticks : Nat) (shown : List Shown) (ended animated : Machine),
        (plain.play settings fresh).runAt desk = (.ok (.ok (.finished steps, ended)), desk) ∧
        (paced.play settings fresh).runAt desk =
          (.ok (.ok (.finished ticks, animated)), { desk with shown := desk.shown ++ shown }) ∧
        (asked → animated = ended ∧ alike plain) ∧
        (¬asked → ended = fresh ∧ animated = fresh.step.2 ∧ ¬Machine.SamePlace ended animated ∧
          alike { plain with maxSteps := some 1 }) := by
  intro plain paced asked alike
  have hpositive := (Settings.rangeError?_eq_none hrange).1
  have hiff : 1 ≤ plain.budget settings ↔ asked := one_le_budget_iff hpositive
  have halike : ∀ steps : Option Int,
      (paced.unshown steps).budget settings = paced.shownSteps settings →
        alike (paced.unshown steps) := by
    intro steps hn
    obtain ⟨hsame, hdesk⟩ := alike_run rfl hspeed hrange hcount hn desk desk (.refl hq)
    exact ⟨hsame.eq, hdesk.files⟩
  obtain ⟨fresh, hf⟩ := Machine.ofTable?_exists h
  obtain ⟨ticks, shown, hpaced⟩ := @runAt_play_paced settings fresh table desk speed paced rfl
    (Machine.sound_ofTable? hf) hspeed hrange hcount hq
  refine ⟨fresh, hf, _, ticks, shown, _, _, runAt_play_plain rfl fresh desk, hpaced, ?_, ?_⟩
  · intro ha
    have hsteps : paced.shownSteps settings = plain.budget settings :=
      Int.max_eq_right (hiff.mpr ha)
    exact ⟨by rw [hsteps], halike automation.maxSteps hsteps.symm⟩
  · intro ha
    have hbudget : ¬1 ≤ plain.budget settings := fun hb => ha (hiff.mp hb)
    have hsteps : paced.shownSteps settings = 1 :=
      Int.max_eq_left (Int.le_of_lt (Int.not_le.mp hbudget))
    have hnone : fresh.run (plain.budget settings) = (0, fresh) :=
      Machine.run_of_nonpos (by omega) fresh
    rw [hnone, hsteps]
    refine ⟨rfl, Machine.run_one hf, Machine.not_samePlace_run_one hf, ?_⟩
    exact halike (some 1) ((budget_some (by decide) plain settings).trans hsteps.symm)

/-- Where the program misses a rule after three steps, both runs do, and have the same exit code. -/
theorem animated_run_ends_as_plain_run_stuck :
    let table : Table :=
      { rules := [⟨"s", .one "0", some "1", .right, "s"⟩]
        initialState := "s"
        initialTape := ["0", "0", "0"] }
    let desk : Desk :=
      { files := ⟨[(["p.tm"], .file "s:\n 0: \x7bR: s\x7d\nstart state: s".toUTF8)]⟩
        day := "2026-01-01" }
    let settings : Settings := { logSteps := false }
    let plain : Automation := { program := "p.tm", runs := true, maxSteps := some 9 }
    let paced : Automation := { plain with speed := some 100 }
    ∃ fresh, Machine.ofTable? table = some fresh ∧
      ∃ (steps ticks : Nat) (shown : List Shown) (ended : Machine),
        (plain.play settings fresh).runAt desk = (.ok (.ok (.finished steps, ended)), desk) ∧
        (paced.play settings fresh).runAt desk =
          (.ok (.ok (.finished ticks, ended)), { desk with shown := desk.shown ++ shown }) ∧
        ((paced.run settings).runAt desk).1 = ((plain.run settings).runAt desk).1 ∧
        ((plain.run settings).runAt desk).1.toOption = some 1 := by
  intro table desk settings plain paced
  have h : table.rules ≠ [] := by decide
  obtain ⟨fresh, hf, steps, ticks, shown, ended, animated, hplain, hpaced, hsame, _⟩ :=
    @animated_run_ends_as_plain_run settings table desk 100 h rfl (by decide) (by decide) rfl plain
  have hasked : ∀ n, plain.maxSteps = some n → 0 ≤ n := by decide
  obtain ⟨rfl, hexit, _⟩ := hsame hasked
  exact ⟨fresh, hf, steps, ticks, shown, animated, hplain, hpaced, hexit, by decide +kernel⟩

/-- With a number of steps below zero the plain run makes none, and finds nothing amiss. The
animation makes one, and misses a rule. -/
theorem animated_run_ends_otherwise :
    let desk : Desk :=
      { files := ⟨[(["p.tm"], .file "s:\n 0: \x7bR: s\x7d\nstart state: s".toUTF8)]⟩
        day := "2026-01-01" }
    let settings : Settings := { logSteps := false }
    let plain : Automation := { program := "p.tm", runs := true, maxSteps := some (-1) }
    ((plain.run settings).runAt desk).1.toOption = some 0 ∧
      (({ plain with speed := some 100 }.run settings).runAt desk).1.toOption = some 1 := by
  decide +kernel

end Automation

end TapeMachine
