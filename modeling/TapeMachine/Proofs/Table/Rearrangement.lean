import Mathlib.Data.List.Find
import TapeMachine.Proofs.Table.Precedence

namespace TapeMachine

def Pattern.isCollection : Pattern → Bool
  | .one _ => false
  | .list _ => true
  | .set _ => true

/-- Whether a rule of a state covers a symbol with a collection. -/
def Rule.gathers (rule : Rule) (state symbol : String) : Bool :=
  rule.read.isCollection && rule.applies state symbol

namespace Table

variable {rules others : List Rule} {rule : Rule} {table : Table} {state symbol : String}

theorem not_isCollection_of_key (h : rule.key = (state, .one symbol)) :
    rule.read.isCollection = false := by
  rw [(Prod.mk.inj h).2]
  rfl

/-- A rule that covers a symbol does so alone or with others. -/
theorem applies_eq_gathers (h : rule.key ≠ (state, .one symbol)) :
    rule.applies state symbol = rule.gathers state symbol := by
  cases hr : rule.read with
  | one a =>
    have hn : rule.applies state symbol ≠ true := by
      intro ha
      obtain ⟨hs, hm⟩ := Rule.applies_iff.mp ha
      rw [hr, Pattern.members, List.mem_singleton] at hm
      exact h (by rw [Rule.key, hs, hr, hm])
    simp [Rule.gathers, hr, Pattern.isCollection, hn]
  | list symbols | set symbols => simp [Rule.gathers, hr, Pattern.isCollection]

/-- The first rule on the symbol alone comes before the first that gathers it with others. -/
theorem lookup_eq_or_gathers (table : Table) (state symbol : String) :
    table.lookup state symbol =
      (table.rules.find? fun rule => decide (rule.key = (state, .one symbol))).or
        (table.rules.find? fun rule => rule.gathers state symbol) := by
  rw [lookup_eq]
  cases hf : table.rules.find? fun rule => decide (rule.key = (state, .one symbol)) with
  | some rule => rfl
  | none =>
    rw [Option.none_or, Option.none_or]
    refine List.find?_congr fun rule hr => applies_eq_gathers ?_
    simpa using List.find?_eq_none.mp hf rule hr

theorem lookup_eq_none_iff :
    table.lookup state symbol = none ↔ ∀ rule ∈ table.rules, rule.applies state symbol = false := by
  rw [← lastFor_eq_none_iff, lastFor, List.find?_eq_none]
  simp

/-- The same rules in another order, in which neither those on one symbol have changed places among
themselves nor those on collections. -/
structure Rearranged (rules others : List Rule) : Prop where
  single : others.filter (fun rule => !rule.read.isCollection) =
    rules.filter fun rule => !rule.read.isCollection
  collections : others.filter (fun rule => rule.read.isCollection) =
    rules.filter fun rule => rule.read.isCollection

theorem Rearranged.perm (h : Rearranged rules others) : rules.Perm others := by
  have hr := List.filter_append_perm (fun rule : Rule => rule.read.isCollection) rules
  have ho := List.filter_append_perm (fun rule : Rule => rule.read.isCollection) others
  rw [h.single, h.collections] at ho
  exact hr.symm.trans ho

/-- What is looked for among the rules of one kind is found where these alone are kept. -/
theorem find?_of_filter_eq {kind wanted : Rule → Bool} (h : others.filter kind = rules.filter kind)
    (hw : ∀ rule, wanted rule = true → kind rule = true) :
    others.find? wanted = rules.find? wanted := by
  have hk : ∀ xs : List Rule, (xs.filter kind).find? wanted = xs.find? wanted := by
    intro xs
    rw [List.find?_filter]
    refine List.find?_congr fun rule _ => ?_
    cases hr : wanted rule with
    | true => simp [hw rule hr]
    | false => simp
  rw [← hk, h, hk]

/-- Only the order among the rules of one kind has a say in a look-up. -/
theorem Rearranged.lookup (h : Rearranged table.rules rules) (state symbol : String) :
    { table with rules }.lookup state symbol = table.lookup state symbol := by
  have hsingle : (rules.find? fun rule => decide (rule.key = (state, .one symbol))) =
      table.rules.find? fun rule => decide (rule.key = (state, .one symbol)) :=
    find?_of_filter_eq h.single fun rule hr => by
      simp [not_isCollection_of_key (of_decide_eq_true hr)]
  have hgathers : (rules.find? fun rule => rule.gathers state symbol) =
      table.rules.find? fun rule => rule.gathers state symbol :=
    find?_of_filter_eq h.collections fun rule hr => (Bool.and_eq_true_iff.mp hr).1
  rw [lookup_eq_or_gathers, lookup_eq_or_gathers, hsingle, hgathers]

end Table

end TapeMachine
