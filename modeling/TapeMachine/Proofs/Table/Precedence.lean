import TapeMachine.Proofs.Table.Keys

namespace TapeMachine

namespace Rule

variable {rule : Rule} {state symbol written : String}

/-- The rule on one symbol that does there what `rule` does. -/
def exactly (rule : Rule) (symbol : String) : Rule :=
  ⟨rule.source, .one symbol, some (rule.leaves symbol), rule.move, rule.target⟩

/-- One rule for each symbol that is read. -/
def expanded (rule : Rule) : List Rule :=
  rule.read.members.map rule.exactly

/-- What is left in a cell that held `symbol`, where the head goes and which state comes next. -/
def effect (rule : Rule) (symbol : String) : String × Move × String :=
  (rule.leaves symbol, rule.move, rule.target)

theorem effect_exactly (rule : Rule) (symbol : String) :
    (rule.exactly symbol).effect symbol = rule.effect symbol := rfl

theorem key_exactly (rule : Rule) (symbol : String) :
    (rule.exactly symbol).key = (rule.source, .one symbol) := rfl

theorem exactly_eq_self (hr : rule.read = .one symbol) (hw : rule.write = some written) :
    rule.exactly symbol = rule := by
  rw [exactly, leaves, hw, Option.getD_some, ← hr, ← hw]

theorem applies_iff :
    rule.applies state symbol = true ↔ rule.source = state ∧ symbol ∈ rule.read.members := by
  rw [applies, Bool.and_eq_true, beq_iff_eq, Pattern.mem_members]

end Rule

namespace Table

variable {rules : List Rule} {rule : Rule} {table : Table} {state symbol : String}

/-- The rule with a key that comes last. -/
def lastOf (key : String × Pattern) (rules : List Rule) : Option Rule :=
  rules.reverse.find? fun rule => rule.key = key

/-- The last rule that covers a symbol in a state, alone or with others. -/
def lastFor (state symbol : String) (rules : List Rule) : Option Rule :=
  rules.reverse.find? fun rule => rule.applies state symbol

theorem lastOf_expanded_one (rule : Rule) (state symbol : String) :
    lastOf (state, .one symbol) rule.expanded =
      if rule.applies state symbol then some (rule.exactly symbol) else none := by
  have hp : ((fun other : Rule => decide (other.key = (state, .one symbol))) ∘ rule.exactly) =
      fun a => decide (rule.source = state ∧ a = symbol) := by
    funext a
    simp [Rule.key_exactly]
  rw [lastOf, Rule.expanded, ← List.map_reverse, List.find?_map, hp]
  split
  next h =>
    obtain ⟨hs, hm⟩ := Rule.applies_iff.mp h
    cases hf : rule.read.members.reverse.find? fun a => decide (rule.source = state ∧ a = symbol) with
    | none =>
      have := List.find?_eq_none.mp hf symbol (List.mem_reverse.mpr hm)
      simp [hs] at this
    | some a =>
      have ha := List.find?_some hf
      rw [decide_eq_true_eq] at ha
      rw [Option.map_some, ha.2]
  next h =>
    rw [Option.map_eq_none_iff, List.find?_eq_none]
    intro a hm ha
    rw [decide_eq_true_eq] at ha
    exact h (Rule.applies_iff.mpr ⟨ha.1, ha.2 ▸ List.mem_reverse.mp hm⟩)

/-- When collections are taken apart, the rule for one symbol that comes last comes from the last
rule that covers the symbol. -/
theorem lastOf_expanded (rules : List Rule) (state symbol : String) :
    lastOf (state, .one symbol) (rules.flatMap Rule.expanded) =
      (lastFor state symbol rules).map fun rule => rule.exactly symbol := by
  have ho := fun rule => lastOf_expanded_one rule state symbol
  unfold lastOf at ho
  rw [lastOf, lastFor, List.reverse_flatMap, List.find?_flatMap]
  simp only [Function.comp_def, ho]
  induction rules.reverse with
  | nil => rfl
  | cons rule rules ih =>
    rw [List.findSome?_cons, List.find?_cons]
    by_cases h : rule.applies state symbol = true
    · simp [h]
    · simp only [h, Bool.false_eq_true, ↓reduceIte]
      exact ih

/-- The rule of a look-up: the first on the symbol alone, or else the first that covers it. -/
theorem select_eq (state symbol : String) (rules : List Rule) (kept : Option Rule) :
    select state symbol rules kept =
      (rules.find? fun rule => decide (rule.key = (state, .one symbol))).or
        (kept.or (rules.find? fun rule => rule.applies state symbol)) := by
  induction rules generalizing kept with
  | nil => simp [select]
  | cons rule rules ih =>
    rw [select, List.find?_cons, List.find?_cons]
    by_cases hs : rule.source = state
    · have happlies : rule.applies state symbol = rule.read.reads symbol := by
        simp [Rule.applies, hs]
      rw [if_pos hs, happlies, Rule.key, hs]
      cases hr : rule.read with
      | one a =>
        by_cases ha : a = symbol
        · simp [ha]
        · have hn : Pattern.reads (.one a) symbol = false := by simpa [Pattern.reads] using ha
          simp [ha, hn, ih]
      | list symbols | set symbols =>
        simp only [ih, Prod.mk.injEq, true_and, reduceCtorEq, decide_false]
        split
        next h => cases kept <;> simp [h]
        next h => cases kept <;> simp [h]
    · have hn : rule.applies state symbol = false := by simp [Rule.applies, hs]
      have hk : rule.key ≠ (state, .one symbol) := fun hk => hs (Prod.mk.inj hk).1
      simp [hs, hn, hk, ih]

theorem lookup_eq (table : Table) (state symbol : String) :
    table.lookup state symbol =
      (table.rules.find? fun rule => decide (rule.key = (state, .one symbol))).or
        (table.rules.find? fun rule => rule.applies state symbol) :=
  select_eq state symbol table.rules none

theorem applies_of_key (h : rule.key = (state, .one symbol)) :
    rule.applies state symbol = true := by
  obtain ⟨hs, hr⟩ := Prod.mk.inj h
  simp [Rule.applies, hs, hr, Pattern.reads]

/-- A look-up gives a rule of the table that covers the symbol in the state. -/
theorem applies_of_lookup (h : table.lookup state symbol = some rule) :
    rule ∈ table.rules ∧ rule.applies state symbol = true := by
  rw [lookup_eq, Option.or_eq_some_iff] at h
  rcases h with h | ⟨_, h⟩
  · have hk := List.find?_some h
    rw [decide_eq_true_eq] at hk
    exact ⟨List.mem_of_find?_eq_some h, applies_of_key hk⟩
  · exact ⟨List.mem_of_find?_eq_some h,
      List.find?_some (p := fun rule : Rule => rule.applies state symbol) h⟩

/-- Whichever of the rules that cover a symbol counts, there is none where none covers it. -/
theorem lastFor_eq_none_iff :
    lastFor state symbol table.rules = none ↔ table.lookup state symbol = none := by
  rw [lookup_eq, lastFor, Option.or_eq_none_iff]
  simp only [List.find?_eq_none, List.mem_reverse, decide_eq_true_eq]
  exact ⟨fun h => ⟨fun rule hr hk => h rule hr (applies_of_key hk), h⟩, fun h => h.2⟩

end Table

end TapeMachine
