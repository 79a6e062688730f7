import TapeMachine.Proofs.Source.Overrides
import TapeMachine.Proofs.Table.Precedence

namespace TapeMachine.Source

open Table

variable {rules : List Rule} {rule : Rule} {key : String × Pattern}

/-- A rule in the place of another is found where that was found. -/
theorem find?_replace (hm : rule.key ∈ rules.map Rule.key) :
    (rules.map fun old => if sameKey rule old then rule else old).find?
        (fun old => decide (old.key = key)) =
      if rule.key = key then some rule else rules.find? fun old => decide (old.key = key) := by
  have hkey : ((fun old => decide (old.key = key)) ∘ fun old =>
      if sameKey rule old then rule else old) = fun old => decide (old.key = key) := by
    funext old
    by_cases hs : sameKey rule old = true
    · simp [hs, sameKey_iff.mp hs]
    · simp [hs]
  rw [List.find?_map, hkey]
  cases hf : rules.find? fun old => decide (old.key = key) with
  | none =>
    have hn : rule.key ≠ key := by
      obtain ⟨old, ho, he⟩ := List.mem_map.mp hm
      simpa [he] using List.find?_eq_none.mp hf old ho
    rw [if_neg hn, Option.map_none]
  | some old =>
    have hk : old.key = key := by simpa using List.find?_some hf
    by_cases hn : rule.key = key
    · rw [if_pos hn, Option.map_some, if_pos (sameKey_iff.mpr (hn.trans hk.symm))]
    · have hs : ¬sameKey rule old = true := fun hs => hn ((sameKey_iff.mp hs).trans hk)
      rw [if_neg hn, Option.map_some, if_neg hs]

/-- Under its own key a rule is found once it has been put, under any other what was found. -/
theorem find?_put (rules : List Rule) (rule : Rule) (key : String × Pattern) :
    (put rules rule).find? (fun old => decide (old.key = key)) =
      if rule.key = key then some rule else rules.find? fun old => decide (old.key = key) := by
  by_cases hm : rule.key ∈ rules.map Rule.key
  · rw [put, if_pos (any_sameKey_iff.mpr hm), find?_replace hm]
  · rw [put_of_not_mem hm, List.find?_append]
    by_cases hk : rule.key = key
    · have hn : rules.find? (fun old => decide (old.key = key)) = none := by
        rw [List.find?_eq_none]
        intro old ho he
        rw [decide_eq_true_eq] at he
        exact hm (List.mem_map.mpr ⟨old, ho, he.trans hk.symm⟩)
      simp [hn, hk]
    · simp [hk]

/-- Of the accepted symbols with one key the last gives the rule. -/
theorem find?_collect (blank : String) (accepted : List Accepted) (key : String × Pattern) :
    (collect blank accepted).1.find? (fun rule => decide (rule.key = key)) =
      lastOf key (accepted.map (Accepted.rule blank)) := by
  induction accepted using List.reverseRecOn with
  | nil => rfl
  | append_singleton accepted next ih =>
    have hl : lastOf key ((accepted ++ [next]).map (Accepted.rule blank)) =
        if (next.rule blank).key = key then some (next.rule blank)
        else lastOf key (accepted.map (Accepted.rule blank)) := by
      simp only [lastOf, List.map_append, List.map_singleton, List.reverse_append,
        List.reverse_singleton, List.singleton_append, List.find?_cons]
      by_cases hk : (next.rule blank).key = key <;> simp [hk]
    rw [collect_concat, find?_put, ih, hl]

/-- What a state does on a symbol is what the last of the lines about them says. -/
theorem lookup_ofLines (lines : List (List Char)) (state symbol : String) :
    (Program.ofLines lines).table.lookup state symbol =
      lastOf (state, .one symbol)
        (rulesHeard (Program.ofLines lines).table.blank none (lines.map reading)) := by
  rw [lookup, select_eq_find? (ofLines_exact lines).one, ← ofLines_accepted]
  exact find?_collect _ _ _

end TapeMachine.Source
