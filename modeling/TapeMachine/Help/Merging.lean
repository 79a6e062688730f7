namespace TapeMachine.Help

variable {α : Type}

/-- How many items have to come from one run in a row before strides are taken over it. -/
def minStreak : Nat := 7

/-- Goes on in strides, each twice as long, while a property holds: the last place where it was seen
to hold, and one past it. -/
def strides (holds : Nat → Bool) (size last next : Nat) : Nat × Nat :=
  if h : next < size ∧ holds next then strides holds size next (2 * next + 1)
  else (last, min next size)
termination_by size - next
decreasing_by omega

/-- The place in the middle of those from `low` on and below `high`; of two such places the later
one, or the earlier one where they are counted from the end. -/
def middleOf (fromEnd : Bool) (low high : Nat) : Nat :=
  if fromEnd then high - 1 - (high - low) / 2 else low + (high - low) / 2

theorem middleOf_bounds (fromEnd : Bool) {low high : Nat} (h : low < high) :
    low ≤ middleOf fromEnd low high ∧ middleOf fromEnd low high < high := by
  unfold middleOf
  split <;> constructor <;> omega

/-- The place from `low` to `high` at which a property ends, found by halving. -/
def halving (fromEnd : Bool) (holds : Nat → Bool) (low high : Nat) : Nat :=
  if h : low < high then
    have := middleOf_bounds fromEnd h
    if holds (middleOf fromEnd low high) then
      halving fromEnd holds (middleOf fromEnd low high + 1) high
    else halving fromEnd holds low (middleOf fromEnd low high)
  else low
termination_by high - low

/-- How many places from the first on have a property that is not expected to come back. -/
def leading (fromEnd : Bool) (holds : Nat → Bool) (size : Nat) : Nat :=
  if 0 < size ∧ holds 0 then
    let (last, next) := strides holds size 0 1
    halving fromEnd holds (last + 1) next
  else 0

/-- How many items at the front of a list have a property. -/
def leadingItems (fromEnd : Bool) (holds : α → Bool) (items : List α) : Nat :=
  leading fromEnd (fun i => (items[i]?).any holds) items.length

/-- Two runs in the course of being merged, from their front or, turned round, from their end. What
is done stands backwards. Strides are taken once a run has outlasted the patience. -/
structure Merge (α : Type) where
  fromEnd : Bool
  held : List α
  other : List α
  done : List α := []
  patience : Nat

/-- Whether a merge goes item by item, after so many in a row from either run, or in strides. -/
inductive Gait where
  | walking (fromHeld fromOther : Nat)
  | striding (isFirst : Bool)

namespace Merge

def takeHeld (count : Nat) (merge : Merge α) : Merge α :=
  { merge with
    held := merge.held.drop count
    done := (merge.held.take count).reverse ++ merge.done }

def takeOther (count : Nat) (merge : Merge α) : Merge α :=
  { merge with
    other := merge.other.drop count
    done := (merge.other.take count).reverse ++ merge.done }

/-- All items, as soon as nothing is left to be compared. -/
def items (merge : Merge α) : List α :=
  merge.done.reverse ++ merge.other ++ merge.held

/-- A merge is over when the other run is used up, or the last held item is known to come last. -/
def ongoing (merge : Merge α) : Except (Merge α) (Merge α) :=
  match merge.other, merge.held with
  | [], _ | _, [] | _, [_] => .error merge
  | _, _ => .ok merge

variable (before : α → α → Bool)

/-- Whether an item of the other run goes ahead of a held one. -/
def goesAhead (fromEnd : Bool) (other held : α) : Bool :=
  if fromEnd then before held other else before other held

/-- Takes the held items that no other goes ahead of, and the other. -/
def passHeld (merge : Merge α) : Except (Merge α) (Nat × Merge α) := do
  let stays (held : α) := !(merge.other.head?).any (goesAhead before merge.fromEnd · held)
  let count := leadingItems merge.fromEnd stays merge.held
  return (count, ← ((← (merge.takeHeld count).ongoing).takeOther 1).ongoing)

/-- Takes the other items that go ahead of a held one, and the held one. -/
def passOther (merge : Merge α) : Except (Merge α) (Nat × Merge α) := do
  let goes (other : α) := (merge.held.head?).any (goesAhead before merge.fromEnd other)
  let count := leadingItems merge.fromEnd goes merge.other
  return (count, ← ((← (merge.takeOther count).ongoing).takeHeld 1).ongoing)

/-- A stride over each run, and the longer of the two. -/
def round (merge : Merge α) : Except (Merge α) (Nat × Merge α) := do
  let (first, second) := if merge.fromEnd then (passOther before, passHeld before)
    else (passHeld before, passOther before)
  let (one, merge) ← first merge
  let (two, merge) ← second merge
  return (max one two, merge)

/-- Takes an item of the run whose turn it is, and tells how many were taken from it in a row. -/
def walk (fromHeld fromOther : Nat) (merge : Merge α) : Except (Merge α) (Gait × Merge α) := do
  let isOther := (merge.other.head?).any fun other =>
    (merge.held.head?).any (goesAhead before merge.fromEnd other)
  let merge ← (if isOther then merge.takeOther 1 else merge.takeHeld 1).ongoing
  let streak := (if isOther then fromOther else fromHeld) + 1
  if merge.patience ≤ streak then return (.striding true, merge)
  else return (if isOther then .walking 0 streak else .walking streak 0, merge)

/-- Takes strides, which make patient where they are short. -/
def stride (isFirst : Bool) (merge : Merge α) : Except (Merge α) (Gait × Merge α) := do
  let patience := if isFirst then merge.patience else max 1 (merge.patience - 1)
  let (streak, merge) ← { merge with patience }.round before
  if minStreak ≤ streak then return (.striding false, merge)
  else return (.walking 0 0, { merge with patience := merge.patience + 1 })

/-- Goes on until the merge is over. Each step takes an item, and more of them than there are items
are not needed. -/
def run : (budget : Nat) → Gait → Merge α → Merge α
  | 0, _, merge => merge
  | budget + 1, gait, merge =>
    let next := match gait with
      | .walking fromHeld fromOther => merge.walk before fromHeld fromOther
      | .striding isFirst => merge.stride before isFirst
    match next with
    | .error merge => merge
    | .ok (gait, merge) => run budget gait merge

/-- The first item always comes from the other run. -/
def start (merge : Merge α) : Merge α :=
  match (merge.takeOther 1).ongoing with
  | .error merge => merge
  | .ok rest => rest.run before (merge.held.length + merge.other.length) (.walking 0 0)

end Merge

/-- Merges two runs, of which the shorter one is held. The state is the patience. -/
def mergeCores (before : α → α → Bool) (first second : List α) : StateM Nat (List α) := do
  let fromEnd := decide (second.length < first.length)
  let patience ← get
  let merge : Merge α := if fromEnd
    then { fromEnd, held := second.reverse, other := first.reverse, patience }
    else { fromEnd, held := first, other := second, patience }
  let merge := merge.start before
  set merge.patience
  return if fromEnd then merge.items.reverse else merge.items

/-- Merges two runs next to each other. What is in its place already, at either end, stays. -/
def mergeRuns (before : α → α → Bool) (first second : List α) : StateM Nat (List α) := do
  let stays (item : α) := !(second.head?).any (before · item)
  let count := leadingItems false stays first
  let rest := first.drop count
  let ends (item : α) := !(rest.getLast?).any (before item ·)
  let ending := leadingItems true ends second.reverse
  let core := second.take (second.length - ending)
  if rest.isEmpty || core.isEmpty then return first ++ second
  else
    return first.take count ++ (← mergeCores before rest core) ++
      second.drop (second.length - ending)

end TapeMachine.Help
