import Mathlib.Logic.Function.Iterate
import TapeMachine.Configuration

namespace TapeMachine.Configuration

/-- One try at a transition; where none is possible the configuration stays as it is. -/
def advance (table : Table) (c : Configuration) : Configuration :=
  match c.step table with
  | .ok next => next
  | .error _ => c

def after (table : Table) (c : Configuration) (n : Nat) : Configuration :=
  (advance table)^[n] c

theorem after_succ (table : Table) (c : Configuration) (n : Nat) :
    c.after table (n + 1) = (c.after table n).advance table :=
  Function.iterate_succ_apply' _ _ _

/-- The head stands on a cell. -/
def OnTape (c : Configuration) : Prop :=
  0 ≤ c.head ∧ c.head < c.tape.size

variable {c : Configuration} {table : Table} {rule : Rule}

theorem OnTape.toNat_lt (on : c.OnTape) : c.head.toNat < c.tape.size := by
  obtain ⟨low, high⟩ := on
  omega

theorem OnTape.cell? (on : c.OnTape) : cell? c.tape c.head = some c.head.toNat := by
  obtain ⟨low, high⟩ := on
  simp only [Configuration.cell?, if_neg (show ¬c.head < 0 by omega), if_pos (And.intro low high)]

theorem OnTape.canWrite (on : c.OnTape) (write : Option String) : c.canWrite write = true := by
  simp [Configuration.canWrite, on.cell?]

theorem OnTape.getElem?_head (on : c.OnTape) (blank : String) :
    c.tape[c.head.toNat]? = some (c.read blank) := by
  have hb := on.toNat_lt
  simp [read, on.1, hb]

theorem OnTape.written_eq (on : c.OnTape) (blank : String) (write : Option String) :
    written c.tape c.head write =
      c.tape.setIfInBounds c.head.toNat (write.getD (c.read blank)) := by
  cases write with
  | some symbol => simp [written, on.cell?]
  | none =>
    apply Array.ext_getElem?
    intro i
    rw [Array.getElem?_setIfInBounds]
    split
    next h =>
      subst h
      simpa [written, on.toNat_lt] using on.getElem?_head blank
    next => rfl

theorem size_written (tape : Array String) (head : Int) (write : Option String) :
    (written tape head write).size = tape.size := by
  unfold written
  split
  next => rfl
  next => split <;> simp

/-- A tape grows with the head that leaves it on the right, and for no other reason. -/
theorem OnTape.size_fire (on : c.OnTape) (rule : Rule) (blank : String) :
    ((c.fire rule blank).tape.size : Int) =
      max (c.tape.size : Int) (1 + (c.fire rule blank).head) := by
  obtain ⟨low, high⟩ := on
  simp only [fire, grown, moved, size_written]
  cases rule.move with
  | left => simp only [reduceCtorEq, false_and, ↓reduceIte, size_written]; omega
  | stay => simp only [reduceCtorEq, false_and, ↓reduceIte, size_written]; omega
  | right =>
    simp only [true_and]
    split
    next h => simp only [Array.size_push, size_written]; omega
    next h => simp only [size_written]; omega

theorem OnTape.fire (on : c.OnTape) (rule : Rule) (blank : String) :
    (c.fire rule blank).OnTape := by
  have hs := on.size_fire rule blank
  obtain ⟨low, high⟩ := on
  refine ⟨?_, by omega⟩
  simp only [Configuration.fire, moved]
  cases rule.move with
  | left => simp only; omega
  | right => simp only; omega
  | stay => exact low

/-- The cell under the head takes the symbol that the rule leaves; whatever is added is blank. -/
theorem OnTape.getElem?_fire (on : c.OnTape) (rule : Rule) (blank : String) (i : Nat) :
    (c.fire rule blank).tape[i]? =
      if i = c.head.toNat then some (rule.leaves (c.read blank))
      else if i < c.tape.size then c.tape[i]?
      else if i < (c.fire rule blank).tape.size then some blank else none := by
  have hb := on.toNat_lt
  simp only [Configuration.fire, grown, on.written_eq blank, Rule.leaves]
  split <;> grind

theorem onTape_start {start : Configuration} (h : start? table = some start) : start.OnTape := by
  unfold start? at h
  split at h
  next => simp at h
  next =>
    cases Option.some.inj h
    refine ⟨Int.le_refl 0, ?_⟩
    split
    next => simp
    next hne =>
      have := List.length_pos_iff.mpr hne
      simpa using this

theorem start?_exists (h : table.rules ≠ []) : ∃ start, start? table = some start :=
  ⟨_, if_neg h⟩

theorem step_of_halted (h : c.halted = true) : c.step table = .ok c := by
  simp [step, h]

theorem step_of_missing {missing : Missing} (h : c.halted = false)
    (hr : c.rule? table = .error missing) : c.step table = .error (.missing missing) := by
  simp [step, h, hr]

theorem OnTape.step_of_rule (on : c.OnTape) (h : c.halted = false)
    (hr : c.rule? table = .ok rule) : c.step table = .ok (c.fire rule table.blank) := by
  simp [step, h, hr, fire?, on.canWrite]

theorem advance_of_halted (h : c.halted = true) : c.advance table = c := by
  rw [advance, step_of_halted h]

theorem advance_of_missing {missing : Missing} (h : c.halted = false)
    (hr : c.rule? table = .error missing) : c.advance table = c := by
  rw [advance, step_of_missing h hr]

theorem after_of_advance_eq (h : c.advance table = c) (n : Nat) : c.after table n = c :=
  Function.iterate_fixed h n

/-- What a try at a transition comes to. -/
theorem OnTape.step_cases (on : c.OnTape) (table : Table) :
    c.halted = true ∧ c.step table = .ok c ∨
      (∃ missing, c.halted = false ∧ c.rule? table = .error missing ∧
        c.step table = .error (.missing missing)) ∨
      ∃ rule, c.halted = false ∧ c.rule? table = .ok rule ∧
        c.step table = .ok (c.fire rule table.blank) := by
  cases hh : c.halted with
  | true => exact .inl ⟨rfl, step_of_halted hh⟩
  | false =>
    cases hr : c.rule? table with
    | error missing => exact .inr (.inl ⟨missing, rfl, rfl, step_of_missing hh hr⟩)
    | ok rule => exact .inr (.inr ⟨rule, rfl, rfl, on.step_of_rule hh hr⟩)

theorem OnTape.advance_cases (on : c.OnTape) (table : Table) :
    c.advance table = c ∨ ∃ rule, c.halted = false ∧ c.rule? table = .ok rule ∧
      c.advance table = c.fire rule table.blank := by
  obtain ⟨_, hs⟩ | ⟨missing, _, _, hs⟩ | ⟨rule, hh, hr, hs⟩ := on.step_cases table
  · exact .inl (by simp [advance, hs])
  · exact .inl (by simp [advance, hs])
  · exact .inr ⟨rule, hh, hr, by simp [advance, hs]⟩

theorem OnTape.advance (on : c.OnTape) (table : Table) : (c.advance table).OnTape := by
  obtain he | ⟨rule, _, _, he⟩ := on.advance_cases table
  · rwa [he]
  · rw [he]
    exact on.fire rule table.blank

theorem onTape_after {start : Configuration} (h : start? table = some start) (n : Nat) :
    (start.after table n).OnTape := by
  induction n with
  | zero => exact onTape_start h
  | succ n ih => rw [after_succ]; exact ih.advance table

end TapeMachine.Configuration
