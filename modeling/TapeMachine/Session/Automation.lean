import TapeMachine.Session.Basic

namespace TapeMachine

open DeskTask

/-- What a run without a menu is to do. -/
structure Automation where
  program : String
  runs : Bool := false
  maxSteps : Option Int := none
  speed : Option Int := none
  graphFile : Option String := none
  deriving DecidableEq, Repr

namespace Automation

/-- A number that was given and is not zero. -/
def given (n : Option Int) : Option Int :=
  n.filter (· ≠ 0)

/-- The settings' number of steps serves where none is given. -/
def budget (automation : Automation) (settings : Settings) : Int :=
  (given automation.maxSteps).getD settings.maxSteps

/-- The budget of a run that is shown after every tick. A machine that cannot be shown after the
first makes no other. -/
def shownBudget (machine : Machine) (budget window : Int) : Int :=
  if (machine.step.2.board window).isOk then budget else 1

/-- A run at a speed, shown after every tick: how it ended and the machine after it. -/
def animate (machine : Machine) (speed budget window : Int) :
    DeskTask (Except SpeedError (Pacer.Ending × Machine)) := do
  let callback : Callback (Except ViewError Shown) := { note := (·.board window) }
  match Pacer.start machine speed (some callback) with
  | .error error => return .error error
  | .ok pacer =>
    let (ending, interruptIn, pacer) :=
      pacer.runFor (shownBudget machine budget window) (← get).interruptIn
    modify fun desk => { desk with interruptIn }
    showAll (pacer.notes.toList.filterMap Except.toOption)
    return .ok (ending, pacer.machine)

/-- The run that was asked for, paced if a speed is given. -/
def play (automation : Automation) (settings : Settings) (machine : Machine) :
    DeskTask (Except SpeedError (Pacer.Ending × Machine)) := do
  let budget := automation.budget settings
  match given automation.speed with
  | none =>
    let (steps, machine) := machine.run budget
    return .ok (.finished steps, machine)
  | some speed => animate machine speed budget settings.tapeWindow

def store (journal : Journal) (machine : Machine) (known : Nat) : DeskTask Unit :=
  onFiles (journal.log ((machine.log.extract known).toList.map Entry.record)).2

def showEnd (machine : Machine) (window : Int) : DeskTask Unit := do
  Session.showBoard machine window
  showLine ("Final tape: " ++ machine.configuration.text)

/-- Writes the state graph if a file for it is named. -/
def writeGraph (automation : Automation) (settings : Settings) (machine : Machine) :
    DeskTask Unit := do
  match automation.graphFile with
  | none | some "" => return
  | some path =>
    let layout :=
      machine.table.layout machine.configuration.state settings.graphStartState
    onFiles (FileTask.writeJson path layout.json)
    showMarked s!"[green]Graph written to {path}[/green]"

/-- The exit code tells whether the machine missed a rule. -/
def finish (automation : Automation) (settings : Settings) (machine : Machine) :
    DeskTask Int := do
  automation.writeGraph settings machine
  return if machine.error.isSome then 1 else 0

def run (automation : Automation) (settings : Settings) : DeskTask Int := do
  let program ← onFiles (Program.load automation.program)
  Session.showWarnings program
  let journal := settings.journal (← get).day
  onFiles journal.start
  match Machine.ofTable? program.table with
  | none =>
    showPlain ("Error: " ++ Machine.noRules)
    return 1
  | some machine =>
    store journal machine 0
    if automation.runs then
      match ← automation.play settings machine with
      | .error error =>
        showMarked s!"[red]Error: {error.message}[/red]"
        return 1
      | .ok (ending, after) =>
        store journal after machine.log.size
        if ending = .interrupted then throw .interrupted
        showEnd after settings.tapeWindow
        automation.finish settings after
    else automation.finish settings machine

end Automation

end TapeMachine
