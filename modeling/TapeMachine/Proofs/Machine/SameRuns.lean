import TapeMachine.Proofs.Machine.Budget
import TapeMachine.Proofs.Table.Rearrangement

namespace TapeMachine

variable {table other : Table}

/-- Two tables that a run cannot tell apart. -/
structure Table.Interchangeable (table other : Table) : Prop where
  lookup : ∀ state symbol, other.lookup state symbol = table.lookup state symbol
  blank : other.blank = table.blank
  start : Configuration.start? other = Configuration.start? table
  count : other.rules.length = table.rules.length

namespace Configuration

theorem rule?_congr (h : table.Interchangeable other) (c : Configuration) :
    c.rule? other = c.rule? table := by
  simp only [rule?, h.lookup, h.blank]

theorem step_congr (h : table.Interchangeable other) (c : Configuration) :
    c.step other = c.step table := by
  simp only [step, rule?_congr h, h.blank]

theorem runFor_congr (h : table.Interchangeable other) (budget : Nat) (c : Configuration) :
    c.runFor other budget = c.runFor table budget := by
  induction budget generalizing c with
  | zero => rfl
  | succ budget ih => simp only [runFor, step_congr h, ih]

end Configuration

namespace Machine

variable {machine : Machine}

/-- The machine where it stands, with another table from now on. -/
def withTable (machine : Machine) (other : Table) : Machine :=
  { machine with table := other }

theorem table_step (machine : Machine) : machine.step.2.table = machine.table := by
  obtain ⟨_, hs⟩ | ⟨_, _, _, hs⟩ | ⟨_, _, _, hs⟩ := step_cases machine
  · rw [hs]
  · rw [hs]
  · rw [hs]
    rfl

theorem step_withTable (h : machine.table.Interchangeable other) :
    (machine.withTable other).step = (machine.step.1, machine.step.2.withTable other) := by
  obtain ⟨table, c, error, log⟩ := machine
  have hr : c.rule? other = c.rule? table := Configuration.rule?_congr h c
  have hb : other.blank = table.blank := h.blank
  simp only [withTable, step, hr, hb]
  cases c.halted with
  | true => rfl
  | false => cases c.rule? table <;> rfl

theorem runFor_withTable (h : machine.table.Interchangeable other) (done budget : Nat) :
    runFor done budget (machine.withTable other) =
      ((runFor done budget machine).1, (runFor done budget machine).2.withTable other) := by
  induction budget generalizing done machine with
  | zero => rfl
  | succ budget ih =>
    cases hh : machine.halted with
    | true =>
      have ho : (machine.withTable other).halted = true := hh
      rw [runFor_of_halted hh, runFor_of_halted ho]
    | false =>
      have ho : (machine.withTable other).halted = false := hh
      rw [runFor_succ hh, runFor_succ ho, step_withTable h]
      cases machine.step.1 with
      | false => rfl
      | true => exact ih (by rwa [table_step]) (done + 1)

theorem table_runFor (done budget : Nat) (machine : Machine) :
    (runFor done budget machine).2.table = machine.table :=
  runFor_invariant (P := fun next => next.table = machine.table)
    (fun next hn => (table_step next).trans hn) rfl done budget

theorem ofTable?_withTable (h : table.Interchangeable other) :
    ofTable? other = (ofTable? table).map (·.withTable other) := by
  rw [ofTable?, ofTable?, h.start, h.count, Option.map_map]
  rfl

theorem table_reset (machine : Machine) : machine.reset.table = machine.table := by
  rw [reset]
  cases hf : ofTable? machine.table with
  | none => rfl
  | some fresh =>
    obtain ⟨start, _, rfl⟩ := ofTable?_eq_some hf
    rfl

theorem reset_withTable (h : machine.table.Interchangeable other) :
    (machine.withTable other).reset = machine.reset.withTable other := by
  have ho : (machine.withTable other).reset = (ofTable? other).getD (machine.withTable other) := rfl
  rw [ho, ofTable?_withTable h, reset]
  cases ofTable? machine.table <;> rfl

theorem call_withTable (h : machine.table.Interchangeable other) (call : Call) :
    (machine.withTable other).call call = (machine.call call).withTable other := by
  cases call with
  | step => exact congrArg Prod.snd (step_withTable h)
  | run budget => exact congrArg Prod.snd (runFor_withTable h 0 budget.toNat)
  | reset => exact reset_withTable h

theorem table_call (machine : Machine) (call : Call) :
    (machine.call call).table = machine.table := by
  cases call with
  | step => exact table_step machine
  | run budget => exact table_runFor 0 budget.toNat machine
  | reset => exact table_reset machine

theorem afterCalls_withTable (h : machine.table.Interchangeable other) (calls : List Call) :
    (machine.withTable other).afterCalls calls = (machine.afterCalls calls).withTable other := by
  induction calls generalizing machine with
  | nil => rfl
  | cons call calls ih =>
    change ((machine.withTable other).call call).afterCalls calls = _
    rw [call_withTable h]
    exact ih (by rwa [table_call])

theorem table_afterCalls (machine : Machine) (calls : List Call) :
    (machine.afterCalls calls).table = machine.table := by
  induction calls generalizing machine with
  | nil => rfl
  | cons call calls ih => exact (ih (machine.call call)).trans (table_call machine call)

/-- What is seen of a run after some calls: the steps it makes, where it comes to, the rule that it
has missed and the log. -/
def outcome (machine : Machine) (calls : List Call) (budget : Int) :
    Nat × Configuration × Option Missing × Array Entry :=
  let run := (machine.afterCalls calls).run budget
  (run.1, run.2.configuration, run.2.error, run.2.log)

theorem outcome_withTable (h : machine.table.Interchangeable other) (calls : List Call)
    (budget : Int) :
    (machine.withTable other).outcome calls budget = machine.outcome calls budget := by
  have ha : (machine.afterCalls calls).table.Interchangeable other := by
    rwa [table_afterCalls]
  simp only [outcome, run, afterCalls_withTable h, runFor_withTable ha]
  rfl

end Machine

namespace Table

/-- Runs of two tables come to the same, those of bare configurations and those of machines. -/
structure SameRuns (table other : Table) : Prop where
  lookup : ∀ state symbol, other.lookup state symbol = table.lookup state symbol
  start : Configuration.start? other = Configuration.start? table
  engine : ∀ (c : Configuration) (budget : Nat), c.runFor other budget = c.runFor table budget
  machine : ∀ (calls : List Machine.Call) (budget : Int),
    (Machine.ofTable? other).map (·.outcome calls budget) =
      (Machine.ofTable? table).map (·.outcome calls budget)

theorem Interchangeable.sameRuns (h : table.Interchangeable other) : SameRuns table other where
  lookup := h.lookup
  start := h.start
  engine := fun c budget => Configuration.runFor_congr h budget c
  machine := by
    intro calls budget
    rw [Machine.ofTable?_withTable h, Option.map_map]
    cases hf : Machine.ofTable? table with
    | none => rfl
    | some fresh =>
      obtain ⟨_, _, he⟩ := Machine.ofTable?_eq_some hf
      have ht : fresh.table.Interchangeable other := by rwa [he]
      exact congrArg some (Machine.outcome_withTable ht calls budget)

theorem Rearranged.interchangeable {rules : List Rule} (h : Rearranged table.rules rules) :
    table.Interchangeable { table with rules } where
  lookup := h.lookup
  blank := rfl
  start := by
    have he : rules = [] ↔ table.rules = [] := by
      rw [← List.length_eq_zero_iff, ← List.length_eq_zero_iff, h.perm.length_eq]
    simp only [Configuration.start?, he]
  count := h.perm.length_eq.symm

/-- A look-up gives the first rule of the state on the symbol alone, or else the first that covers
it with others, and none where no rule applies. So the order between rules of the two kinds does
not matter, to a look-up or to a run. -/
theorem lookup_precedence (table : Table) :
    (∀ state symbol,
      table.lookup state symbol =
          (table.rules.find? fun rule => decide (rule.key = (state, .one symbol))).or
            (table.rules.find? fun rule => rule.gathers state symbol) ∧
        (table.lookup state symbol = none ↔
          ∀ rule ∈ table.rules, rule.applies state symbol = false)) ∧
      ∀ rules, Rearranged table.rules rules → SameRuns table { table with rules } :=
  ⟨fun state symbol => ⟨lookup_eq_or_gathers table state symbol, lookup_eq_none_iff⟩,
    fun _ h => h.interchangeable.sameRuns⟩

/-- A rule on a symbol alone moves behind two collections that cover it and overlap. -/
theorem lookup_precedence_overlap :
    let single : List Rule := [⟨"s", .one "a", some "x", .right, "s"⟩,
      ⟨"s", .one "a", none, .stay, "t"⟩]
    let collections : List Rule := [⟨"s", .set ["a", "b"], some "y", .right, "s"⟩,
      ⟨"s", .list ["b", "_"], none, .stay, "t"⟩]
    let table : Table :=
      { rules := single ++ collections, initialState := "s", initialTape := ["a", "b"] }
    Rearranged table.rules (collections ++ single) ∧
      SameRuns table { table with rules := collections ++ single } ∧
      { table with rules := collections ++ single }.lookup "s" "a" = single.head? ∧
      { table with rules := collections ++ single }.lookup "s" "b" = collections.head? := by
  intro single collections table
  have h : Rearranged table.rules (collections ++ single) := ⟨rfl, rfl⟩
  have hruns := (lookup_precedence table).2 _ h
  refine ⟨h, hruns, ?_, ?_⟩
  · rw [hruns.lookup]
    rfl
  · rw [hruns.lookup]
    rfl

end Table

end TapeMachine
