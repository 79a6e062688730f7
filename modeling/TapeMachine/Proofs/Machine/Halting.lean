import TapeMachine.Proofs.Configuration.Trace
import TapeMachine.Proofs.Machine.Calls

namespace TapeMachine

/-- A rule that ends a run: it does not move, or it leads to the state that halts. -/
def Rule.Ends (rule : Rule) : Prop :=
  rule.move = .stay ∨ rule.target = Configuration.haltState

instance (rule : Rule) : Decidable rule.Ends :=
  inferInstanceAs (Decidable (_ ∨ _))

namespace Configuration

variable {table : Table} {c start : Configuration} {rule : Rule}

/-- The rule that a try at a transition applies, if there is one. -/
def applied? (table : Table) (c : Configuration) : Option Rule :=
  if c.halted then none else (c.rule? table).toOption

/-- The rules that so many tries apply, in their order. -/
def applied (table : Table) (start : Configuration) : Nat → List Rule
  | 0 => []
  | n + 1 => applied table start n ++ ((start.after table n).applied? table).toList

theorem applied?_eq_some :
    c.applied? table = some rule ↔ c.halted = false ∧ c.rule? table = .ok rule := by
  unfold applied?
  cases hh : c.halted with
  | true => simp
  | false => cases hr : c.rule? table <;> simp [Except.toOption]

theorem OnTape.advance_of_applied (on : c.OnTape) (h : c.applied? table = some rule) :
    c.advance table = c.fire rule table.blank := by
  obtain ⟨hh, hr⟩ := applied?_eq_some.mp h
  rw [Configuration.advance, on.step_of_rule hh hr]

theorem OnTape.advance_of_not_applied (on : c.OnTape) (h : c.applied? table = none) :
    c.advance table = c := by
  obtain he | ⟨rule, hh, hr, _⟩ := on.advance_cases table
  · exact he
  · cases h.symm.trans (applied?_eq_some.mpr ⟨hh, hr⟩)

/-- What has been applied in so many tries, and where it has led. -/
structure History (table : Table) (start : Configuration) (rules : List Rule)
    (c : Configuration) : Prop where
  fired : c = rules.foldl (fun c rule => c.fire rule table.blank) start
  halted : c.halted = true ↔ ∃ rule, rules.getLast? = some rule ∧ rule.Ends
  state : c.state = (rules.getLast?.map Rule.target).getD start.state
  /-- What follows another rule does not start in the state that halts. -/
  source : ∀ i rule, rules[i + 1]? = some rule → rule.source ≠ haltState
  first : ∀ rule, rules.head? = some rule → rule.source = start.state

theorem History.nil (h : start.halted = false) : History table start [] start :=
  ⟨rfl, by simp [h], rfl, by simp, by simp⟩

theorem halted_fire_iff (hh : c.halted = false) (rule : Rule) (blank : String) :
    (c.fire rule blank).halted = true ↔ rule.Ends := by
  simp [fire, hh, Rule.Ends]

/-- A rule that led to the state that halts has halted the run. -/
theorem History.state_ne_halt {rules : List Rule} (h : History table start rules c)
    (hne : rules ≠ []) (hh : c.halted = false) : c.state ≠ haltState := by
  intro hstate
  have hlast := List.getLast?_eq_some_getLast hne
  have htarget : (rules.getLast hne).target = haltState := by
    rw [← hstate, h.state, hlast]
    rfl
  have hc : c.halted = true := h.halted.mpr ⟨_, hlast, .inr htarget⟩
  simp [hh] at hc

theorem History.concat {rules : List Rule} (h : History table start rules c)
    (hh : c.halted = false) (hr : c.rule? table = .ok rule) :
    History table start (rules ++ [rule]) (c.fire rule table.blank) where
  fired := by
    rw [List.foldl_append, ← h.fired]
    rfl
  halted := by
    rw [halted_fire_iff hh]
    simp
  state := by simp [fire]
  source := by
    intro i other hi
    obtain hlt | hge := Nat.lt_or_ge (i + 1) rules.length
    · rw [List.getElem?_append_left hlt] at hi
      exact h.source i other hi
    · rw [List.getElem?_append_right hge, List.getElem?_singleton] at hi
      split at hi
      next hz =>
        cases hi
        have hne : rules ≠ [] := by
          rintro rfl
          simp at hz
        -- It is the new rule, and it starts in the state that the others have led to.
        rw [(applies_of_rule? hr).2]
        exact h.state_ne_halt hne hh
      next => cases hi
  first := by
    intro other ho
    cases rules with
    | nil =>
      cases ho
      rw [(applies_of_rule? hr).2, h.state]
      rfl
    | cons first rules => exact h.first other ho

theorem history_after (hs : start? table = some start) (n : Nat) :
    History table start (start.applied table n) (start.after table n) := by
  induction n with
  | zero =>
    have hh : start.halted = false := by rw [start?_eq_some hs]
    exact .nil hh
  | succ n ih =>
    have on := onTape_after hs n
    rw [after_succ, applied]
    cases ha : (start.after table n).applied? table with
    | none =>
      rw [on.advance_of_not_applied ha]
      simpa using ih
    | some rule =>
      rw [on.advance_of_applied ha]
      obtain ⟨hh, hr⟩ := applied?_eq_some.mp ha
      exact ih.concat hh hr

/-- A rule out of the state that halts can only be the first. -/
theorem History.first_of_source {rules : List Rule} (h : History table start rules c) {i : Nat}
    (hi : rules[i]? = some rule) (hs : rule.source = haltState) :
    i = 0 ∧ start.state = haltState := by
  cases i with
  | zero => exact ⟨rfl, by rw [← hs, h.first rule (by rwa [List.head?_eq_getElem?])]⟩
  | succ i => exact absurd hs (h.source i rule hi)

theorem after_add_of_halted {n : Nat} (h : (start.after table n).halted = true) (m : Nat) :
    start.after table (n + m) = start.after table n := by
  rw [after, Nat.add_comm, Function.iterate_add_apply]
  exact after_of_advance_eq (advance_of_halted h) m

end Configuration

namespace Machine

variable {machine fresh : Machine} {table : Table} {start : Configuration}

theorem step_of_halted (h : machine.halted = true) :
    machine.step = (false, { machine with log := machine.log.push .alreadyHalted }) := by
  obtain ⟨_, hs⟩ | ⟨_, hh, _, _⟩ | ⟨_, hh, _, _⟩ := step_cases machine
  · exact hs
  · simp [h] at hh
  · simp [h] at hh

/-- A machine stands where some number of tries leads from the start. -/
def Stands (table : Table) (start : Configuration) (machine : Machine) : Prop :=
  machine.table = table ∧ ∃ n, machine.configuration = start.after table n

theorem Stands.step (hs : Configuration.start? table = some start)
    (h : machine.Stands table start) : machine.step.2.Stands table start := by
  obtain ⟨ht, n, hn⟩ := h
  have on := Configuration.onTape_after hs n
  obtain ⟨_, he⟩ | ⟨_, _, _, he⟩ | ⟨rule, hh, hr, he⟩ := step_cases machine
  · rw [he]
    exact ⟨ht, n, hn⟩
  · rw [he]
    exact ⟨ht, n, hn⟩
  · rw [he]
    rw [ht, hn] at hr
    rw [halted, hn] at hh
    refine ⟨ht, n + 1, ?_⟩
    rw [Configuration.after_succ,
      on.advance_of_applied (Configuration.applied?_eq_some.mpr ⟨hh, hr⟩), ← hn, ← ht]
    rfl

theorem stands_afterCalls (hs : Configuration.start? table = some start)
    (hf : ofTable? table = some fresh) (calls : List Call) :
    (fresh.afterCalls calls).Stands table start := by
  refine afterCalls_invariant hf (fun _ h => h.1) (fun _ h => h.step hs) ?_ calls
  obtain ⟨other, ho, rfl⟩ := ofTable?_eq_some hf
  cases hs.symm.trans ho
  exact ⟨rfl, 0, rfl⟩

end Machine

namespace Configuration

/-- A run has halted when the last rule applied ends it, and not before. It stays as it is then,
and a rule out of the state that halts is applied only where the run starts in that state. -/
theorem halting_exact_and_absorbing {table : Table} (h : table.rules ≠ []) :
    ∃ start fresh, start? table = some start ∧ Machine.ofTable? table = some fresh ∧
      (∀ n, let c := start.after table n
        let rules := start.applied table n
        c = rules.foldl (fun c rule => c.fire rule table.blank) start ∧
        (c.halted = true ↔ ∃ rule, rules.getLast? = some rule ∧
          (rule.move = .stay ∨ rule.target = haltState)) ∧
        (c.halted = true → c.step table = .ok c ∧ ∀ m, start.after table (n + m) = c) ∧
        ∀ (i : Nat) rule, rules[i]? = some rule → rule.source = haltState →
          i = 0 ∧ table.initialState = haltState) ∧
      ∀ calls, let machine := fresh.afterCalls calls
        (∃ n, machine.configuration = start.after table n) ∧
        (machine.halted = true →
          machine.step = (false, { machine with log := machine.log.push .alreadyHalted }) ∧
          ∀ budget, machine.run budget = (0, machine)) := by
  obtain ⟨start, hs⟩ := start?_exists h
  obtain ⟨fresh, hf⟩ := Machine.ofTable?_exists h
  have hstate : start.state = table.initialState := by rw [start?_eq_some hs]
  refine ⟨start, fresh, hs, hf, fun n => ?_, fun calls => ?_⟩
  · have history := history_after hs n
    refine ⟨history.fired, history.halted, fun hh => ⟨step_of_halted hh, ?_⟩, ?_⟩
    · exact after_add_of_halted hh
    · intro i rule hi hsource
      rw [← hstate]
      exact history.first_of_source hi hsource
  · refine ⟨(Machine.stands_afterCalls hs hf calls).2, fun hh => ⟨Machine.step_of_halted hh, ?_⟩⟩
    exact fun budget => Machine.runFor_of_halted hh 0 budget.toNat

/-- A run that starts in the state that halts leaves it once, and halts when it comes back. -/
theorem halting_exact_and_absorbing_returning :
    let table : Table :=
      { rules := [⟨"done", .one "0", some "1", .right, "s"⟩, ⟨"s", .one "_", none, .left, "done"⟩]
        initialState := "done"
        initialTape := ["0"] }
    table.rules ≠ [] ∧ ∃ start, start? table = some start ∧
      start.applied table 5 = table.rules ∧ (start.after table 5).halted = true ∧
      ∀ m, start.after table (5 + m) = start.after table 5 := by
  intro table
  have h : table.rules ≠ [] := by decide
  obtain ⟨start, fresh, hs, -, hruns, -⟩ := halting_exact_and_absorbing h
  obtain ⟨-, -, habsorbed, -⟩ := hruns 5
  have hend : start.applied table 5 = table.rules ∧ (start.after table 5).halted = true := by
    cases Option.some.inj hs
    decide
  exact ⟨h, start, hs, hend.1, hend.2, (habsorbed hend.2).2⟩

end Configuration

end TapeMachine
