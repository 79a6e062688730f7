import TapeMachine.Console.Markup
import TapeMachine.Files.Task

namespace TapeMachine

/-- What a tool shows: a text on lines of its own, or a table. -/
inductive Shown where
  | text (text : String)
  | table (title : Option String) (header : Option (List String)) (rows : List (List String))
  deriving DecidableEq, Repr

/-- What a tool works at: the files, what it has shown, the day, and the pause, counted from now,
in which its user will interrupt it. -/
structure Desk where
  files : Files.Tree
  day : String
  shown : Array Shown := #[]
  interruptIn : Option Nat := none

/-- Work at a desk. What was done and shown before a fault remains. -/
abbrev DeskTask (α : Type) := ExceptT Fault (StateM Desk) α

namespace DeskTask

variable {α : Type}

/-- Work on the files of the desk. -/
def onFiles (task : FileTask α) : DeskTask α := do
  let desk ← get
  let (result, files) := task.runOn desk.files
  set { desk with files }
  match result with
  | .ok value => return value
  | .error fault => throw fault

def attempt (result : Except Fault α) : DeskTask α :=
  match result with
  | .ok value => return value
  | .error fault => throw fault

def showAll (items : List Shown) : DeskTask Unit :=
  modify fun desk => { desk with shown := desk.shown ++ items }

def showLine (text : String) : DeskTask Unit :=
  showAll [.text text]

/-- Shows a text without its marks. -/
def showMarked (text : String) : DeskTask Unit := do
  showLine (← attempt ((Console.plain text).mapError .markup))

/-- Shows a text that has no marks. -/
def showPlain (text : String) : DeskTask Unit :=
  showLine (Console.visible text)

/-- The outcome and the desk after the work. -/
def runAt (task : DeskTask α) (desk : Desk) : Except Fault α × Desk :=
  task.run.run desk

end DeskTask

/-- Where a tool stands: it is over, with an exit code if it has one, or waits for a line. -/
inductive Stage (σ : Type) where
  | ended (code : Option Int)
  | asking (state : σ)

/-- Goes on with one line after another until the tool is over. -/
def Stage.hear {σ : Type} (respond : σ → String → DeskTask (Stage σ)) :
    Stage σ → List String → DeskTask (Option Int)
  | ended code, _ => return code
  | asking _, [] => throw .endOfInput
  | asking state, line :: lines => do hear respond (← respond state line) lines

end TapeMachine
