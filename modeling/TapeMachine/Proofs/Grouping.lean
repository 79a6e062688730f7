import Mathlib.Data.List.Induction
import Mathlib.Data.List.Perm.Basic
import TapeMachine.Distinct
import TapeMachine.Proofs.Dictionary

namespace TapeMachine

/-- The members of a list, each once, in the order in which they first occur there. -/
structure FirstOrder {α : Type} [DecidableEq α] (xs ys : List α) : Prop where
  mem_iff : ∀ x, x ∈ ys ↔ x ∈ xs
  order : ys.Pairwise fun x y => xs.idxOf x < xs.idxOf y

theorem firstOrder_distinct {α : Type} [DecidableEq α] (xs : List α) :
    FirstOrder xs (distinct xs) where
  mem_iff := fun _ => mem_distinct
  order := by
    induction xs with
    | nil => exact List.Pairwise.nil
    | cons x xs ih =>
      rw [distinct, List.pairwise_cons]
      -- Behind the first member `x` no other is equal to it, so all indices grow by one.
      have hne : ∀ y ∈ (distinct xs).filter (· ≠ x), (x == y) = false := by
        intro y hy
        simpa using (of_decide_eq_true (List.mem_filter.mp hy).2).symm
      refine ⟨fun y hy => ?_, (ih.filter (· ≠ x)).imp_of_mem fun {y z} hy hz hlt => ?_⟩
      · simp [List.idxOf_cons, hne y hy]
      · simpa [List.idxOf_cons, hne y hy, hne z hz] using hlt

section Groups

variable {α κ : Type} [DecidableEq κ] {key : α → κ} {keys : List κ} {k : κ}

/-- The members with keys from a list, the groups in the order of that list. -/
theorem flatMap_filter_perm (hn : keys.Nodup) (xs : List α) (h : ∀ x ∈ xs, key x ∈ keys) :
    (keys.flatMap fun k => xs.filter fun x => key x = k).Perm xs := by
  induction keys generalizing xs with
  | nil =>
    cases xs with
    | nil => rfl
    | cons x xs => exact absurd (h x (by simp)) (by simp)
  | cons k keys ih =>
    obtain ⟨hk, ht⟩ := List.nodup_cons.mp hn
    have hr := ih ht (xs.filter fun x => !decide (key x = k)) (by
      intro x hm
      obtain ⟨hm, hne⟩ := List.mem_filter.mp hm
      exact (List.mem_cons.mp (h x hm)).resolve_left (by simpa using hne))
    have he : (keys.flatMap fun l => xs.filter fun x => key x = l) =
        keys.flatMap fun l =>
          (xs.filter fun x => !decide (key x = k)).filter fun x => key x = l := by
      refine List.flatMap_congr fun l hl => ?_
      rw [List.filter_filter]
      refine List.filter_congr fun x _ => ?_
      by_cases hq : key x = l
      · have : key x ≠ k := by
          rintro rfl
          exact hk (hq ▸ hl)
        simp [hq, hq ▸ this]
      · simp [hq]
    rw [List.flatMap_cons, he]
    exact (hr.append_left _).trans (List.filter_append_perm _ _)

theorem flatMap_filter_eq (hn : keys.Nodup) (xs : List α) :
    (keys.flatMap fun l => xs.filter fun x => key x = l).filter (fun x => decide (key x = k)) =
      if k ∈ keys then xs.filter fun x => key x = k else [] := by
  induction keys with
  | nil => simp
  | cons l keys ih =>
    obtain ⟨hl, ht⟩ := List.nodup_cons.mp hn
    rw [List.flatMap_cons, List.filter_append, ih ht, List.filter_filter]
    by_cases hk : k = l
    · subst hk
      simp [hl]
    · have hnone : xs.filter (fun x => decide (key x = k) && decide (key x = l)) = [] := by
        rw [List.filter_eq_nil_iff]
        intro x _ hx
        simp only [Bool.and_eq_true, decide_eq_true_eq] at hx
        exact hk (hx.1.symm.trans hx.2)
      simp [hnone, hk]

/-- Every member is in the one group of its key. -/
theorem flatMap_distinct_perm (key : α → κ) (xs : List α) :
    ((distinct (xs.map key)).flatMap fun k => xs.filter fun x => key x = k).Perm xs :=
  flatMap_filter_perm (distinct_nodup _) xs fun _ hx => mem_distinct.mpr (List.mem_map_of_mem hx)

/-- The members of a group keep their order. -/
theorem filter_flatMap_distinct (key : α → κ) (xs : List α) (k : κ) :
    ((distinct (xs.map key)).flatMap fun l => xs.filter fun x => key x = l).filter
        (fun x => decide (key x = k)) = xs.filter fun x => key x = k := by
  rw [flatMap_filter_eq (distinct_nodup _)]
  split
  next => rfl
  next h =>
    rw [mem_distinct, List.mem_map] at h
    symm
    rw [List.filter_eq_nil_iff]
    intro x hx hk
    exact h ⟨x, hx, by simpa using hk⟩

open Dictionary in
/-- The groups come in the order of their first members, and the members of each in their old
order. -/
theorem grouped_eq [BEq κ] [LawfulBEq κ] (key : α → κ) (values : List α) :
    Dictionary.grouped key values =
      (distinct (values.map key)).map fun k => (k, values.filter fun value => key value = k) := by
  induction values using List.reverseRecOn with
  | nil => rfl
  | append_singleton values value ih =>
    have hd : Distinct (grouped key values) := ih ▸ distinct_map (distinct_nodup _)
    have hfilter : ∀ k, (values ++ [value]).filter (fun other => key other = k) =
        (values.filter fun other => key other = k) ++ if key value = k then [value] else [] := by
      intro k
      rw [List.filter_append]
      split <;> simp [*]
    rw [grouped_concat, addTo, List.map_append, List.map_singleton, distinct_concat]
    by_cases h : key value ∈ values.map key
    · have hget : get? (grouped key values) (key value) =
          some (values.filter fun other => key other = key value) := by
        rw [ih, get?_map_of_mem (mem_distinct.mpr h)]
      rw [set_of_known hd (by rw [hget]; exact nofun), hget, ih, if_pos h, List.map_map]
      refine List.map_congr_left fun k hk => ?_
      rw [hfilter]
      by_cases hv : key value = k
      · simp [hv]
      · simp [hv, Ne.symm hv]
    · have hget : get? (grouped key values) (key value) = none := by
        rw [ih, get?_map_of_notMem fun hm => h (mem_distinct.mp hm)]
      have hnone : values.filter (fun other => key other = key value) = [] := by
        rw [List.filter_eq_nil_iff]
        exact fun other ho he => h (List.mem_map.mpr ⟨other, ho, of_decide_eq_true he⟩)
      rw [set_of_new hget, hget, ih, if_neg h, List.map_append]
      refine congrArg₂ (· ++ ·) (List.map_congr_left fun k hk => ?_) ?_
      · have hne : key value ≠ k := fun hv => h (hv ▸ mem_distinct.mp hk)
        simp [hfilter, hne]
      · simp [hfilter, hnone]

end Groups

end TapeMachine
