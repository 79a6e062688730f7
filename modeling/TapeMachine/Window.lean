import TapeMachine.Machine

namespace TapeMachine

/-- Why there is no picture of a tape: no cell is in view, or more cells than can be counted would
be. -/
inductive ViewError where
  | noCells
  | uncountable
  deriving DecidableEq, Repr

def ViewError.message : ViewError → String
  | noCells => "there is no cell to be shown"
  | uncountable => "cannot fit 'int' into an index-sized integer"

namespace Configuration

/-- What can be counted lies below this. -/
def maxCount : Int := 0x8000000000000000

/-- The first cell in view: the head stands in the middle unless the tape begins before. -/
def viewStart (c : Configuration) (width : Int) : Nat :=
  (c.head - width.fdiv 2).toNat

/-- An end below zero counts from the end of the tape. -/
def viewEnd (c : Configuration) (width : Int) : Nat :=
  let stop := c.viewStart width + width
  if stop < 0 then (c.tape.size + stop).toNat else stop.toNat

/-- The cells in view that the tape has. -/
def cellsInView (c : Configuration) (width : Int) : List String :=
  (c.tape.extract (c.viewStart width) (c.viewEnd width)).toList

/-- The number of blanks that a view lacks, if it can be counted. There is always room for the
blanks. -/
def missingBlanks (cells : List String) (width : Int) : Except ViewError Nat :=
  let missing := width - cells.length
  if missing < -maxCount ∨ maxCount ≤ missing then .error .uncountable else .ok missing.toNat

/-- The cells in view, blanks past the end of the tape. -/
def view (c : Configuration) (blank : String) (width : Int) : Except ViewError (List String) :=
  (missingBlanks (c.cellsInView width) width).map fun missing =>
    c.cellsInView width ++ List.replicate missing blank

def padRight (width : Nat) (text : String) : String :=
  text ++ String.ofList (List.replicate (width - text.length) ' ')

/-- Cells, all as wide as the widest, over a caret under the one that is `offset` cells from the
first. There is no picture of no cells. -/
def picture (cells : List String) (offset : Int) : Except ViewError String :=
  match cells.map String.length with
  | [] => .error .noCells
  | first :: rest =>
    let wide := rest.foldl max first
    let caret := offset * (wide + 1)
    .ok (" ".intercalate (cells.map (padRight wide)) ++ "\n" ++
      String.ofList (List.replicate caret.toNat ' ') ++ "^")

/-- The cells in view over a caret under the head. -/
def render (c : Configuration) (blank : String) (width : Int) : Except ViewError String := do
  picture (← c.view blank width) (c.head - c.viewStart width)

end Configuration

namespace Machine

def render (machine : Machine) (width : Int) : Except ViewError String :=
  machine.configuration.render machine.table.blank width

def yesNo : Bool → String
  | true => "True"
  | false => "False"

/-- The picture of the tape and a line about the machine. -/
def picture (machine : Machine) (width : Int) : Except ViewError String :=
  (machine.render width).map fun tape =>
    let c := machine.configuration
    s!"{tape}\nState: {c.state}, Step: {c.steps}, Halted: {yesNo c.halted}\n"

/-- How many cells of the tape a picture has unless a number is given. -/
def usualWidth : Int := 9

/-- The pictures of a run that is shown before each step and at its end. -/
def pictures (machine : Machine) (budget : Int) : Except ViewError (List String) :=
  (machine.frames budget.toNat).mapM (·.picture usualWidth)

end Machine

end TapeMachine
