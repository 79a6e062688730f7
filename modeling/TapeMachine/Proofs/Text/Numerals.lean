import Mathlib.Algebra.Group.Nat.Defs
import Mathlib.Data.List.Induction
import TapeMachine.Text.Numeral

namespace TapeMachine.Text

variable {digits : List Nat} {text : List Char}

theorem ofDigits_concat (digits : List Nat) (last : Nat) :
    ofDigits (digits ++ [last]) = 10 * ofDigits digits + last := by
  simp [ofDigits]

theorem ofDigits_lt (h : ∀ d ∈ digits, d < 10) : ofDigits digits < 10 ^ digits.length := by
  induction digits using List.reverseRecOn with
  | nil => decide
  | append_singleton digits last ih =>
    rw [List.forall_mem_append, List.forall_mem_singleton] at h
    have hrest := ih h.1
    rw [ofDigits_concat, List.length_append, List.length_singleton, Nat.pow_succ]
    omega

theorem digit?_lt {c : Char} {d : Nat} (h : digit? c = some d) : d < 10 := by
  obtain ⟨first, hf, rfl⟩ := Option.map_eq_some_iff.mp h
  have hrange := List.find?_some hf
  simp only [Bool.and_eq_true, decide_eq_true_eq] at hrange
  omega

theorem digits?_lt (h : digits? text = some digits) : ∀ d ∈ digits, d < 10 := by
  fun_induction digits? text generalizing digits with
  | case1 => cases h
  | case2 c =>
    obtain ⟨d, hd, rfl⟩ := Option.map_eq_some_iff.mp h
    exact List.forall_mem_singleton.mpr (digit?_lt hd)
  | case3 c rest ih =>
    obtain ⟨d, hd, hrest⟩ := Option.bind_eq_some_iff.mp h
    obtain ⟨ds, hds, he⟩ := Option.bind_eq_some_iff.mp hrest
    cases he
    exact List.forall_mem_cons.mpr ⟨digit?_lt hd, ih hds⟩
  | case4 c rest _ _ ih =>
    obtain ⟨d, hd, hrest⟩ := Option.bind_eq_some_iff.mp h
    obtain ⟨ds, hds, he⟩ := Option.bind_eq_some_iff.mp hrest
    cases he
    exact List.forall_mem_cons.mpr ⟨digit?_lt hd, ih hds⟩

theorem natural?_lt {n : Nat} (h : natural? text = some n) : n < 10 ^ maxDigits := by
  obtain ⟨ds, hds, hn⟩ := Option.bind_eq_some_iff.mp h
  split at hn
  next => cases hn
  next hlength =>
    cases hn
    have hpow : 10 ^ ds.length ≤ 10 ^ maxDigits :=
      Nat.pow_le_pow_right (by decide) (Nat.not_lt.mp hlength)
    exact Nat.lt_of_lt_of_le (ofDigits_lt (digits?_lt hds)) hpow

/-- A number that was typed can be written. -/
theorem integer?_lt {text : String} {n : Int} (h : integer? text = some n) :
    n.natAbs < 10 ^ maxDigits := by
  unfold integer? at h
  simp only at h
  split at h <;> obtain ⟨m, hm, rfl⟩ := Option.map_eq_some_iff.mp h
  · rw [Int.natAbs_neg]
    exact natural?_lt hm
  · exact natural?_lt hm
  · exact natural?_lt hm

end TapeMachine.Text
