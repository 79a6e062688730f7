import TapeMachine.Dictionary

namespace TapeMachine.Help

variable {β : Type}

/-- The larger count comes first, of equal ones the smaller name. -/
def ranksBefore (more : β → β → Bool) (a b : String × β) : Bool :=
  more a.2 b.2 || (!more b.2 a.2 && decide (a.1 ≤ b.1))

def ranking (more : β → β → Bool) (entries : Dictionary String β) : List (String × β) :=
  entries.mergeSort (ranksBefore more)

/-- The first of a list, `limit` many; below zero it says how many are left out at the end. -/
def first {α : Type} (limit : Int) (xs : List α) : List α :=
  if limit < 0 then xs.take (xs.length + limit).toNat else xs.take limit.toNat

/-- How many are listed unless told otherwise. -/
def defaultLimit : Int := 3

/-- How often each question was asked, in the order of the first times. -/
abbrev Tally := Dictionary String Nat

namespace Tally

def increment (tally : Tally) (question : String) : Tally :=
  tally.set question ((tally.get? question).getD 0 + 1)

def mostFrequent (tally : Tally) (limit : Int := defaultLimit) : List (String × Nat) :=
  first limit (ranking (fun a b => decide (b < a)) tally)

end Tally

end TapeMachine.Help
