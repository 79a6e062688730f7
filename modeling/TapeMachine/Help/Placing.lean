namespace TapeMachine.Help

variable {α : Type}

/-- The place of an item in a list from `low` to `high`, found by halving: behind all that it does
not come before. -/
def placeOf (before : α → α → Bool) (item : α) (placed : Array α) (low high : Nat) : Nat :=
  if low < high then
    let middle := low + (high - low) / 2
    if (placed[middle]?).any (before item) then placeOf before item placed low middle
    else placeOf before item placed (middle + 1) high
  else low
termination_by high - low

/-- The items at the front that follow on an item and on each other, and the rest. -/
def spanFrom (follows : α → α → Bool) (last : α) : List α → List α × List α
  | [] => ([], [])
  | x :: xs =>
    if follows last x then
      let (run, rest) := spanFrom follows x xs
      (x :: run, rest)
    else ([], x :: xs)

/-- The items at the front that are in order, or in the opposite order and then reversed, and the
rest. -/
def firstRun (before : α → α → Bool) : List α → List α × List α
  | x :: y :: rest =>
    if before y x then
      let (run, rest) := spanFrom (fun last next => before next last) y rest
      ((x :: y :: run).reverse, rest)
    else
      let (run, rest) := spanFrom (fun last next => !before next last) y rest
      (x :: y :: run, rest)
  | short => (short, [])

/-- Puts further items, one after another, into a run that is in order. -/
def placeAll (before : α → α → Bool) (run items : List α) : List α :=
  (items.foldl (fun placed item =>
    let place := placeOf before item placed 0 placed.size
    placed.extract 0 place ++ #[item] ++ placed.extract place placed.size) run.toArray).toList

/-- Items cut into runs that are in order, of at least `size` items but for the last. No more runs
than the budget are made. -/
def runsOf (before : α → α → Bool) (size : Nat) : (budget : Nat) → List α → List (List α)
  | 0, _ | _, [] => []
  | budget + 1, items =>
    let (run, rest) := firstRun before items
    let missing := size - run.length
    placeAll before run (rest.take missing) :: runsOf before size budget (rest.drop missing)

end TapeMachine.Help
