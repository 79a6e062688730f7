import Mathlib.Algebra.Order.BigOperators.Group.Finset
import Mathlib.Data.Finset.Lattice.Fold
import Mathlib.Order.Lattice.Nat
import TapeMachine.Proofs.Configuration.Advance

namespace TapeMachine.Configuration

variable {c : Configuration} {table : Table}

/-- The tape of `next` is that of `c`, but for the cell under the head of `c` and at most one blank
at its end. -/
structure KeepsCells (blank : String) (c next : Configuration) : Prop where
  size_le : c.tape.size ≤ next.tape.size
  size_le_succ : next.tape.size ≤ c.tape.size + 1
  kept : ∀ i < c.tape.size, (i : Int) ≠ c.head → next.tape[i]? = c.tape[i]?
  added : ∀ i < next.tape.size, c.tape.size ≤ i → next.tape[i]? = some blank

theorem KeepsCells.refl (blank : String) (c : Configuration) : KeepsCells blank c c where
  size_le := Nat.le_refl _
  size_le_succ := Nat.le_succ _
  kept _ _ _ := rfl
  added _ hi hj := absurd hi (Nat.not_lt.mpr hj)

theorem OnTape.head_fire_le (on : c.OnTape) (rule : Rule) (blank : String) :
    (c.fire rule blank).head ≤ c.head + 1 := by
  have := on.1
  simp only [Configuration.fire, moved]
  cases rule.move with
  | left => simp only; omega
  | right => simp only; omega
  | stay => simp only; omega

theorem OnTape.keepsCells_fire (on : c.OnTape) (rule : Rule) (blank : String) :
    KeepsCells blank c (c.fire rule blank) := by
  have hs := on.size_fire rule blank
  have hh := on.head_fire_le rule blank
  obtain ⟨low, high⟩ := on
  refine ⟨by omega, by omega, ?_, ?_⟩
  · intro i hi hne
    have hi' : i ≠ c.head.toNat := by omega
    rw [getElem?_fire ⟨low, high⟩, if_neg hi', if_pos hi]
  · intro i hi hj
    have hi' : i ≠ c.head.toNat := by omega
    rw [getElem?_fire ⟨low, high⟩, if_neg hi', if_neg (by omega), if_pos hi]

theorem OnTape.keepsCells_advance (on : c.OnTape) (table : Table) :
    KeepsCells table.blank c (c.advance table) := by
  obtain he | ⟨rule, _, _, he⟩ := on.advance_cases table
  · rw [he]
    exact .refl _ _
  · rw [he]
    exact on.keepsCells_fire rule table.blank

theorem OnTape.size_advance (on : c.OnTape) (table : Table) :
    ((c.advance table).tape.size : Int) =
      max (c.tape.size : Int) (1 + (c.advance table).head) := by
  obtain he | ⟨rule, _, _, he⟩ := on.advance_cases table
  · have := on.2
    rw [he]
    omega
  · rw [he]
    exact on.size_fire rule table.blank

/-- The largest head position up to the `n`-th configuration. -/
def farthest (table : Table) (c : Configuration) (n : Nat) : Nat :=
  (Finset.range (n + 1)).sup fun k => (c.after table k).head.toNat

theorem farthest_succ (table : Table) (c : Configuration) (n : Nat) :
    c.farthest table (n + 1) =
      max (c.farthest table n) (c.after table (n + 1)).head.toNat := by
  rw [farthest, Finset.range_add_one, Finset.sup_insert, sup_comm]
  rfl

theorem size_after {start : Configuration} (h : start? table = some start) (n : Nat) :
    (start.after table n).tape.size = max start.tape.size (1 + start.farthest table n) := by
  induction n with
  | zero =>
    have on := onTape_start h
    have hz : start.farthest table 0 = start.head.toNat := by simp [farthest, after]
    have hb := on.toNat_lt
    rw [hz]
    simp only [after, Function.iterate_zero, id]
    omega
  | succ n ih =>
    have on := onTape_after h n
    have hs := on.size_advance table
    rw [← after_succ] at hs
    have low := (onTape_after h (n + 1)).1
    rw [farthest_succ]
    omega

/-- Along every run the head stands on the tape, so that each read finds a cell and each write
meets one. The tape is as long as the farthest position of the head asks, and a step keeps every
cell but the one under the head. -/
theorem after_extent (h : table.rules ≠ []) :
    ∃ start, start? table = some start ∧ ∀ n, let c := start.after table n
      c.tape.size ≠ 0 ∧ 0 ≤ c.head ∧ c.head < c.tape.size ∧
      (∀ write, c.canWrite write = true) ∧ c.step table ≠ .error .outsideTape ∧
      c.tape[c.head.toNat]? = some (c.read table.blank) ∧
      c.tape.size = max start.tape.size (1 + start.farthest table n) ∧
      KeepsCells table.blank c (start.after table (n + 1)) := by
  obtain ⟨start, hs⟩ := start?_exists h
  refine ⟨start, hs, fun n => ?_⟩
  have on := onTape_after hs n
  have hstep : (start.after table n).step table ≠ .error .outsideTape := by
    intro he
    obtain ⟨_, hc⟩ | ⟨_, _, _, hc⟩ | ⟨_, _, _, hc⟩ := on.step_cases table
    · simp [hc] at he
    · simp [hc] at he
    · simp [hc] at he
  refine ⟨?_, on.1, on.2, on.canWrite, hstep, on.getElem?_head table.blank, size_after hs n, ?_⟩
  · have := on.toNat_lt
    omega
  · rw [after_succ]
    exact on.keepsCells_advance table

/-- On the empty tape a head that walks to the right leaves a blank behind it at every step. -/
theorem after_extent_empty_tape :
    let table : Table :=
      { rules := [⟨"s", .list ["0", "_"], none, .right, "s"⟩]
        initialState := "s"
        initialTape := [] }
    table.rules ≠ [] ∧ ∃ start, start? table = some start ∧
      (start.after table 3).tape.size = max start.tape.size (1 + start.farthest table 3) ∧
      (start.after table 3).tape.size = 4 := by
  intro table
  have h : table.rules ≠ [] := by decide
  obtain ⟨start, hs, run⟩ := after_extent h
  obtain ⟨_, _, _, _, _, _, size, _⟩ := run 3
  refine ⟨h, start, hs, size, ?_⟩
  cases Option.some.inj hs
  decide

end TapeMachine.Configuration
