import Mathlib.Data.List.Nodup
import TapeMachine.Table

namespace TapeMachine

/-- What tells the rules of a table apart. -/
def Rule.key (rule : Rule) : String × Pattern :=
  (rule.source, rule.read)

namespace Table

variable {rules : List Rule} {rule kept : Rule} {table other : Table} {state symbol : String}

/-- Every rule reads one symbol, and no two rules read the same symbol in the same state. -/
structure Exact (rules : List Rule) : Prop where
  one : ∀ rule ∈ rules, ∃ a, rule.read = .one a
  nodup : (rules.map Rule.key).Nodup

theorem Exact.perm {left right : List Rule} (h : Exact left) (hp : left.Perm right) :
    Exact right where
  one := fun rule hr => h.one rule (hp.symm.subset hr)
  nodup := (hp.map Rule.key).nodup_iff.mp h.nodup

theorem Exact.eq_of_key (h : Exact rules) (hr : rule ∈ rules) (hk : kept ∈ rules)
    (he : rule.key = kept.key) : rule = kept :=
  List.inj_on_of_nodup_map h.nodup hr hk he

/-- Where every rule reads one symbol, the first rule with the key of the step is selected. -/
theorem select_eq_find? (h : ∀ rule ∈ rules, ∃ a, rule.read = .one a) (state symbol : String) :
    select state symbol rules none =
      rules.find? fun rule => decide (rule.key = (state, .one symbol)) := by
  induction rules with
  | nil => rfl
  | cons rule rules ih =>
    obtain ⟨a, ha⟩ := h rule (by simp)
    have ht := ih fun other ho => h other (List.mem_cons_of_mem rule ho)
    simp only [select, ha, List.find?_cons, Rule.key, Prod.mk.injEq, Pattern.one.injEq]
    by_cases hs : rule.source = state
    · by_cases hb : a = symbol
      · simp [hs, hb]
      · simp [hs, hb, ht, Rule.key]
    · simp [hs, ht, Rule.key]

theorem lookup_eq_some_iff (h : Exact table.rules) :
    table.lookup state symbol = some rule ↔
      rule ∈ table.rules ∧ rule.key = (state, .one symbol) := by
  rw [lookup, select_eq_find? h.one]
  constructor
  · intro hf
    exact ⟨List.mem_of_find?_eq_some hf, by simpa using List.find?_some hf⟩
  · rintro ⟨hm, hk⟩
    cases hf : table.rules.find? fun rule => decide (rule.key = (state, .one symbol)) with
    | none =>
      have := List.find?_eq_none.mp hf rule hm
      simp [hk] at this
    | some found =>
      have hfk : found.key = (state, .one symbol) := by simpa using List.find?_some hf
      rw [h.eq_of_key hm (List.mem_of_find?_eq_some hf) (hk.trans hfk.symm)]

/-- The order of the rules has no say in what a state does on a symbol. -/
theorem lookup_of_perm (h : Exact table.rules) (hp : table.rules.Perm other.rules)
    (state symbol : String) : other.lookup state symbol = table.lookup state symbol := by
  apply Option.ext
  intro rule
  rw [lookup_eq_some_iff h, lookup_eq_some_iff (h.perm hp), hp.mem_iff]

end Table

end TapeMachine
