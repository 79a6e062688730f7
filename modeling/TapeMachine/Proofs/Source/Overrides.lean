import Mathlib.Data.List.Induction
import TapeMachine.Proofs.Source.Drafts
import TapeMachine.Proofs.Table.Keys

namespace TapeMachine.Source

open Table

variable {rules : List Rule} {rule : Rule} {blank : String} {accepted : List Accepted}
variable {lines : List (List Char)}

theorem sameKey_iff {a b : Rule} : sameKey a b = true ↔ a.key = b.key := by
  simp [sameKey, Rule.key]

theorem any_sameKey_iff : rules.any (sameKey rule) = true ↔ rule.key ∈ rules.map Rule.key := by
  simp only [List.any_eq_true, sameKey_iff, List.mem_map]
  exact exists_congr fun _ => and_congr_right fun _ => eq_comm

theorem put_of_not_mem (h : rule.key ∉ rules.map Rule.key) : put rules rule = rules ++ [rule] := by
  rw [put, if_neg (fun ha => h (any_sameKey_iff.mp ha))]

theorem mem_put {other : Rule} (h : other ∈ put rules rule) : other = rule ∨ other ∈ rules := by
  unfold put at h
  split at h
  next =>
    obtain ⟨old, ho, he⟩ := List.mem_map.mp h
    split at he
    next => exact .inl he.symm
    next => exact .inr (he ▸ ho)
  next => simpa [or_comm] using h

/-- A rule in the place of another has its key. -/
theorem put_keys (rules : List Rule) (rule : Rule) :
    (put rules rule).map Rule.key =
      if rule.key ∈ rules.map Rule.key then rules.map Rule.key
      else rules.map Rule.key ++ [rule.key] := by
  by_cases h : rule.key ∈ rules.map Rule.key
  · rw [put, if_pos (any_sameKey_iff.mpr h), if_pos h, List.map_map]
    refine List.map_congr_left fun old _ => ?_
    by_cases hs : sameKey rule old = true
    · simp [hs, sameKey_iff.mp hs]
    · simp [hs]
  · rw [put_of_not_mem h, if_neg h]
    simp

theorem put_keys_nodup (h : (rules.map Rule.key).Nodup) :
    ((put rules rule).map Rule.key).Nodup := by
  rw [put_keys]
  split
  next => exact h
  next hn => exact List.nodup_append.mpr ⟨h, by simp, by simpa using hn⟩

theorem collect_concat (blank : String) (accepted : List Accepted) (next : Accepted) :
    collect blank (accepted ++ [next]) =
      (put (collect blank accepted).1 (next.rule blank),
        if (collect blank accepted).1.any (sameKey (next.rule blank)) then
          (collect blank accepted).2 ++ [next.override blank]
        else (collect blank accepted).2) := by
  rw [collect, List.foldl_append]
  rfl

theorem mem_collect (h : rule ∈ (collect blank accepted).1) :
    rule ∈ accepted.map (Accepted.rule blank) := by
  induction accepted using List.reverseRecOn with
  | nil => simp [collect] at h
  | append_singleton accepted next ih =>
    rw [collect_concat] at h
    rw [List.map_append, List.mem_append]
    rcases mem_put h with rfl | hr
    · exact .inr (by simp)
    · exact .inl (ih hr)

theorem collect_keys_nodup (blank : String) (accepted : List Accepted) :
    ((collect blank accepted).1.map Rule.key).Nodup := by
  induction accepted using List.reverseRecOn with
  | nil => simp [collect]
  | append_singleton accepted next ih =>
    rw [collect_concat]
    exact put_keys_nodup ih

/-- Rules with keys of their own override nothing. -/
theorem collect_of_nodup (h : ((accepted.map (Accepted.rule blank)).map Rule.key).Nodup) :
    collect blank accepted = (accepted.map (Accepted.rule blank), []) := by
  induction accepted using List.reverseRecOn with
  | nil => rfl
  | append_singleton accepted next ih =>
    rw [List.map_append, List.map_append] at h
    have hc := ih (List.nodup_append.mp h).1
    have hn : (next.rule blank).key ∉ (accepted.map (Accepted.rule blank)).map Rule.key :=
      fun hm => (List.nodup_append.mp h).2.2 _ hm _ (by simp) rfl
    rw [collect_concat, hc, put_of_not_mem hn, if_neg (fun ha => hn (any_sameKey_iff.mp ha))]
    simp

theorem ofLines_accepted (blank : String) (lines : List (List Char)) :
    (Draft.ofLines lines).accepted.toList.map (Accepted.rule blank) =
      rulesHeard blank none (lines.map reading) := by
  rw [Draft.ofLines, foldl_addLine_rules]
  rfl

theorem mem_ofLines_rules (h : rule ∈ (Program.ofLines lines).table.rules) :
    rule ∈ rulesHeard (Program.ofLines lines).table.blank none (lines.map reading) := by
  rw [← ofLines_accepted]
  exact mem_collect h

theorem ofLines_exact (lines : List (List Char)) : Exact (Program.ofLines lines).table.rules where
  one := by
    intro rule hr
    obtain ⟨_, line, symbol, _, _, he⟩ := mem_rulesHeard (mem_ofLines_rules hr)
    exact ⟨_, by rw [he]; rfl⟩
  nodup := collect_keys_nodup _ _

/-- Where no rule overrides another the table has the rules of the lines as they come. -/
theorem ofLines_of_nodup
    (h : ((rulesHeard (Program.ofLines lines).table.blank none (lines.map reading)).map
      Rule.key).Nodup)
    (hw : (Draft.ofLines lines).warnings = #[]) :
    (Program.ofLines lines).table.rules =
        rulesHeard (Program.ofLines lines).table.blank none (lines.map reading) ∧
      (Program.ofLines lines).warnings = [] := by
  rw [← ofLines_accepted] at h ⊢
  have hc := collect_of_nodup h
  refine ⟨congrArg Prod.fst hc, ?_⟩
  have hs : (collect (Draft.ofLines lines).blank.toString
      (Draft.ofLines lines).accepted.toList).2 = [] := congrArg Prod.snd hc
  simp only [Program.ofLines, Draft.program, hw, hs]
  simp

end TapeMachine.Source
