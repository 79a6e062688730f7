import Mathlib.Logic.Function.Basic
import TapeMachine.Proofs.Configuration.Advance

namespace TapeMachine

/-- A machine on a tape without an end on the right. -/
structure Endless where
  cells : Nat → String
  head : Nat
  state : String
  steps : Nat
  halted : Bool

namespace Endless

/-- The initial tape with blanks after it. -/
def start (table : Table) : Endless where
  cells i := table.initialTape.getD i table.blank
  head := 0
  state := table.initialState
  steps := 0
  halted := false

def symbol (e : Endless) : String :=
  e.cells e.head

def rule? (e : Endless) (table : Table) : Option Rule :=
  table.lookup e.state e.symbol

def fire (e : Endless) (rule : Rule) : Endless where
  cells := Function.update e.cells e.head (rule.leaves e.symbol)
  head := match rule.move with
    | .left => e.head - 1
    | .right => e.head + 1
    | .stay => e.head
  state := rule.target
  steps := e.steps + 1
  halted := rule.move = .stay || rule.target = Configuration.haltState

/-- No rule applies, although the machine has not halted. -/
def Stuck (table : Table) (e : Endless) : Prop :=
  e.halted = false ∧ e.rule? table = none

def advance (table : Table) (e : Endless) : Endless :=
  if e.halted then e
  else match e.rule? table with
    | some rule => e.fire rule
    | none => e

def after (table : Table) (e : Endless) (n : Nat) : Endless :=
  (advance table)^[n] e

theorem after_succ (table : Table) (e : Endless) (n : Nat) :
    e.after table (n + 1) = (e.after table n).advance table :=
  Function.iterate_succ_apply' _ _ _

end Endless

namespace Configuration

variable {c : Configuration} {e : Endless} {table : Table} {blank : String}

/-- Both stand at the same point of a run, the tape of `c` taken with blanks after its end. -/
structure Denotes (blank : String) (c : Configuration) (e : Endless) : Prop where
  cells : ∀ i, c.tape.getD i blank = e.cells i
  head : c.head = e.head
  state : c.state = e.state
  steps : c.steps = e.steps
  halted : c.halted = e.halted

theorem denotes_start {start : Configuration} (h : start? table = some start) :
    start.Denotes table.blank (Endless.start table) := by
  unfold start? at h
  split at h
  next => simp at h
  next =>
    cases Option.some.inj h
    refine ⟨fun i => ?_, rfl, rfl, rfl, rfl⟩
    simp only [Endless.start]
    split
    next he => cases i <;> simp [he]
    next => simp

theorem Denotes.read (d : c.Denotes blank e) : c.read blank = e.symbol := by
  have hz : 0 ≤ c.head := by rw [d.head]; omega
  have ht : c.head.toNat = e.head := by rw [d.head]; rfl
  rw [Configuration.read, if_pos hz, ht]
  exact d.cells e.head

theorem Denotes.rule? (d : c.Denotes table.blank e) :
    c.rule? table = match e.rule? table with
      | some rule => .ok rule
      | none => .error ⟨e.state, e.symbol⟩ := by
  cases hl : table.lookup e.state e.symbol <;>
    simp [Configuration.rule?, Endless.rule?, d.read, d.state, hl]

/-- Past the end of the tape a written cell never lies, and the cell that a move adds is as blank
as the place it takes. -/
theorem Denotes.fire (d : c.Denotes blank e) (on : c.OnTape) (hh : c.halted = false)
    (rule : Rule) : (c.fire rule blank).Denotes blank (e.fire rule) := by
  have ht : c.head.toNat = e.head := by rw [d.head]; rfl
  refine ⟨fun i => ?_, ?_, rfl, ?_, ?_⟩
  · rw [Array.getD_eq_getD_getElem?, on.getElem?_fire, ht, d.read]
    have hc := d.cells i
    rw [Array.getD_eq_getD_getElem?] at hc
    by_cases hi : i = e.head
    · subst hi
      simp [Endless.fire]
    · have hu : (e.fire rule).cells i = e.cells i := Function.update_of_ne hi _ _
      rw [if_neg hi, hu, ← hc]
      split
      next => rfl
      next hb =>
        rw [Array.getElem?_eq_none (by omega)]
        split <;> rfl
  · have := d.head
    simp only [Configuration.fire, moved, Endless.fire]
    cases rule.move with
    | left => simp only; omega
    | right => simp only; omega
    | stay => exact d.head
  · simp only [Configuration.fire, Endless.fire, d.steps]
    rfl
  · simp only [Configuration.fire, Endless.fire, hh, Bool.false_or]
    rfl

theorem Denotes.advance (d : c.Denotes table.blank e) (on : c.OnTape) :
    (c.advance table).Denotes table.blank (e.advance table) := by
  have hr := d.rule?
  unfold Endless.advance
  rw [← d.halted]
  obtain ⟨hh, hs⟩ | ⟨missing, hh, hm, hs⟩ | ⟨rule, hh, hm, hs⟩ := on.step_cases table
  · simpa [Configuration.advance, hs, hh] using d
  · rw [hm] at hr
    cases hl : e.rule? table with
    | some rule => simp [hl] at hr
    | none => simpa [Configuration.advance, hs, hh, hl] using d
  · rw [hm] at hr
    cases hl : e.rule? table with
    | none => simp [hl] at hr
    | some found =>
      have he : rule = found := by simpa [hl] using hr
      subst he
      simpa [Configuration.advance, hs, hh, hl] using d.fire on hh rule

theorem denotes_after {start : Configuration} (h : start? table = some start) (n : Nat) :
    (start.after table n).Denotes table.blank ((Endless.start table).after table n) := by
  induction n with
  | zero => exact denotes_start h
  | succ n ih =>
    rw [after_succ, Endless.after_succ]
    exact ih.advance (onTape_after h n)

/-- A transition fails just where the endless tape has no rule to apply, and names the state and
the symbol that are found there. -/
theorem Denotes.step_eq_error_iff (d : c.Denotes table.blank e) (on : c.OnTape)
    (error : StepError) :
    c.step table = .error error ↔
      e.Stuck table ∧ error = .missing ⟨e.state, e.symbol⟩ := by
  have hr := d.rule?
  unfold Endless.Stuck
  rw [← d.halted]
  obtain ⟨hh, hs⟩ | ⟨missing, hh, hm, hs⟩ | ⟨rule, hh, hm, hs⟩ := on.step_cases table
  · simp [hs, hh]
  · rw [hm] at hr
    cases hl : e.rule? table with
    | some rule => simp [hl] at hr
    | none =>
      have he : missing = ⟨e.state, e.symbol⟩ := by simpa [hl] using hr
      rw [hs, he]
      simp [hh, eq_comm]
  · rw [hm] at hr
    cases hl : e.rule? table with
    | none => simp [hl] at hr
    | some found => simp [hs, hh]

/-- The tape that grows on demand behaves as one without an end, step for step and up to the rule
that is missing. -/
theorem after_denotes_endless (h : table.rules ≠ []) :
    ∃ start, start? table = some start ∧ ∀ n,
      (start.after table n).Denotes table.blank ((Endless.start table).after table n) ∧
      ∀ error, (start.after table n).step table = .error error ↔
        ((Endless.start table).after table n).Stuck table ∧
          error = .missing ⟨((Endless.start table).after table n).state,
            ((Endless.start table).after table n).symbol⟩ := by
  obtain ⟨start, hs⟩ := start?_exists h
  refine ⟨start, hs, fun n => ?_⟩
  have d := denotes_after hs n
  exact ⟨d, d.step_eq_error_iff (onTape_after hs n)⟩

/-- The fourth step of this run finds no rule, on a cell that no rule has written. -/
theorem after_denotes_endless_stuck :
    let table : Table :=
      { rules := [⟨"s", .list ["0", "1"], none, .right, "s"⟩, ⟨"s", .one "_", some "1", .left, "t"⟩]
        initialState := "s"
        initialTape := ["1", "0"] }
    table.rules ≠ [] ∧ ∃ start, start? table = some start ∧
      (start.after table 3).Denotes "_" ((Endless.start table).after table 3) ∧
      (start.after table 3).step table = .error (.missing ⟨"t", "0"⟩) := by
  intro table
  have h : table.rules ≠ [] := by decide
  obtain ⟨start, hs, run⟩ := after_denotes_endless h
  obtain ⟨denotes, failure⟩ := run 3
  exact ⟨h, start, hs, denotes, (failure _).mpr ⟨⟨by decide, by decide⟩, by decide⟩⟩

end Configuration

end TapeMachine
