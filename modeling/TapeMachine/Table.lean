import TapeMachine.Distinct
import TapeMachine.Rule

namespace TapeMachine

structure Table where
  rules : List Rule := []
  initialState : String := "right"
  blank : String := "_"
  initialTape : List String := ["1", "0", "1", "1"]
  deriving DecidableEq, Repr

namespace Table

/-- One pass over the rules: an exact rule ends it, the first collection that covers the symbol is
kept in case none comes. -/
def select (state symbol : String) : List Rule → Option Rule → Option Rule
  | [], kept => kept
  | rule :: rules, kept =>
    if rule.source = state then
      match rule.read with
      | .one a => if a = symbol then some rule else select state symbol rules kept
      | collection =>
        select state symbol rules
          (kept <|> if collection.reads symbol then some rule else none)
    else select state symbol rules kept

/-- The rule for a state and a symbol; exact symbols come before collections. -/
def lookup (table : Table) (state symbol : String) : Option Rule :=
  select state symbol table.rules none

/-- All states that rules name, in the order of their first mention. -/
def states (table : Table) : List String :=
  distinct (table.rules.flatMap fun rule => [rule.source, rule.target])

def symbols (table : Table) : List String :=
  distinct (table.rules.flatMap fun rule => rule.read.members)

def rulesFrom (table : Table) (state : String) : List Rule :=
  table.rules.filter fun rule => rule.source = state

/-- The listed states that no rule with a moving head leaves. -/
def finalStates (table : Table) (states : List String) : List String :=
  states.filter fun state =>
    !table.rules.any fun rule => rule.source = state && rule.move != .stay

theorem mem_states {table : Table} {state : String} :
    state ∈ table.states ↔ ∃ rule ∈ table.rules, state = rule.source ∨ state = rule.target := by
  simp [states]

theorem mem_symbols {table : Table} {symbol : String} :
    symbol ∈ table.symbols ↔ ∃ rule ∈ table.rules, rule.read.reads symbol = true := by
  simp [symbols, Pattern.mem_members]

theorem nodup_states (table : Table) : table.states.Nodup :=
  distinct_nodup _

theorem nodup_symbols (table : Table) : table.symbols.Nodup :=
  distinct_nodup _

end Table

end TapeMachine
