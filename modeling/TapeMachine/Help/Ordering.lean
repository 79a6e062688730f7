import TapeMachine.Help.Merging
import TapeMachine.Help.Placing

namespace TapeMachine.Help

variable {α : Type}

/-- How long runs are at least among so many items: all of them, or a number from 32 to 64 of which
the whole is nearly a power of two. -/
def runSize (size : Nat) (odd : Nat := 0) : Nat :=
  if size < 64 then size + odd else runSize (size / 2) (max odd (size % 2))

/-- The depth in a halving of the whole at which the middles of two neighbouring runs fall apart;
`first` and `second` are twice their places. -/
def depthBetween (size : Nat) : (budget first second : Nat) → Nat
  | 0, _, _ => 0
  | budget + 1, first, second =>
    if size ≤ first then 1 + depthBetween size budget (2 * (first - size)) (2 * (second - size))
    else if size ≤ second then 1
    else 1 + depthBetween size budget (2 * first) (2 * second)

/-- A run that waits to be merged, and the depth between it and the run after it. -/
structure Pending (α : Type) where
  items : List α
  depth : Nat

/-- Merges a run with those before it from which it is parted deeper than from the next run. -/
def collapse (before : α → α → Bool) (depth : Nat) (run : List α) :
    List (Pending α) → StateM Nat (List α × List (Pending α))
  | [] => return (run, [])
  | last :: rest => do
    if depth < last.depth then collapse before depth (← mergeRuns before last.items run) rest
    else return (run, last :: rest)

/-- Takes a further run, the one before it and those that wait still. -/
def pushRun (before : α → α → Bool) (size : Nat) :
    List α × List (Pending α) → List α → StateM Nat (List α × List (Pending α))
  | (run, waiting), next => do
    let start := (waiting.flatMap Pending.items).length
    let first := 2 * start + run.length
    let depth := depthBetween size size first (first + run.length + next.length)
    let (run, waiting) ← collapse before depth run waiting
    return (next, { items := run, depth } :: waiting)

/-- Merges all that is left, the last runs first unless the one before them is the shortest. -/
def mergeAll (before : α → α → Bool) (run : List α) : List (Pending α) → StateM Nat (List α)
  | [] => return run
  | [last] => mergeRuns before last.items run
  | last :: other :: rest => do
    if other.items.length < run.length then
      let items ← mergeRuns before other.items last.items
      mergeAll before run ({ other with items } :: rest)
    else mergeAll before (← mergeRuns before last.items run) (other :: rest)
termination_by waiting => waiting.length

/-- Puts items in order. What comes out is in order if `before` is one; where some items cannot be
compared it depends on the order in which they came. -/
def inOrder (before : α → α → Bool) (items : List α) : List α :=
  match runsOf before (runSize items.length) items.length items with
  | [] => []
  | first :: rest =>
    let task : StateM Nat (List α) := do
      let (run, waiting) ← rest.foldlM (pushRun before items.length) (first, [])
      mergeAll before run waiting
    (task.run minStreak).1

end TapeMachine.Help
