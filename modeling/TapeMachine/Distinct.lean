namespace TapeMachine

variable {α : Type} [DecidableEq α]

/-- The members of a list without repetition, in the order of their first occurrences. -/
def distinct : List α → List α
  | [] => []
  | x :: xs => x :: (distinct xs).filter (· ≠ x)

@[simp]
theorem mem_distinct {x : α} {xs : List α} : x ∈ distinct xs ↔ x ∈ xs := by
  induction xs with
  | nil => simp [distinct]
  | cons y ys ih =>
    by_cases h : x = y
    · simp [distinct, h]
    · simp [distinct, h, ih]

theorem distinct_nodup (xs : List α) : (distinct xs).Nodup := by
  induction xs with
  | nil => simp [distinct]
  | cons y ys ih =>
    simp only [distinct, List.nodup_cons, List.mem_filter]
    exact ⟨by simp, ih.sublist List.filter_sublist⟩

/-- A member that has occurred before adds nothing. -/
theorem distinct_concat (xs : List α) (x : α) :
    distinct (xs ++ [x]) = if x ∈ xs then distinct xs else distinct xs ++ [x] := by
  induction xs with
  | nil => simp [distinct]
  | cons y ys ih =>
    rw [List.cons_append, distinct, ih]
    by_cases hy : x = y
    · subst hy
      by_cases h : x ∈ ys <;> simp [distinct, h]
    · by_cases h : x ∈ ys <;> simp [distinct, h, hy]

end TapeMachine
