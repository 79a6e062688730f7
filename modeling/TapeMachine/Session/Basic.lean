import TapeMachine.Console.Board
import TapeMachine.Console.Desk
import TapeMachine.Help.Topics
import TapeMachine.Journal
import TapeMachine.Pacer
import TapeMachine.Pool
import TapeMachine.Settings.File

namespace TapeMachine

/-- The fields of the settings that can be edited, in the order in which they are asked for. -/
inductive Edit where
  | speed
  | maxSteps
  | tapeWindow
  | logSteps
  | defaultProgram
  | graphStartState
  deriving DecidableEq, Repr

/-- What a session waits to be told. -/
inductive Query where
  | choice
  | programFile
  | speed
  | exportGraph (layout : StateGraph.Layout)
  | graphFile (layout : StateGraph.Layout)
  | topic
  | question (topic : Help.Topic)
  | edit (field : Edit) (draft : Settings)

/-- A session at the menu: the text of a program, its table and the machine that runs it. -/
structure Session where
  settings : Settings
  journal : Journal
  source : String := ""
  sourceName : Option String := none
  table : Option Table := none
  machine : Option Machine := none
  query : Query := .choice

/-- The journal that settings ask for. -/
def Settings.journal (settings : Settings) (day : String) : Journal where
  directory := settings.outputDirectory
  fileStart := settings.logFilePrefix
  onDisk := settings.logSteps
  day := day

namespace Session

open DeskTask

def load (session : Session) (path : Text.Wording) : DeskTask Session := do
  let source ← onFiles (do FileTask.readText (← FileTask.spelled path))
  return { session with source, sourceName := some path.shown, table := none, machine := none }

/-- Takes over a machine, the entries of whose log from `known` on are new. -/
def follow (session : Session) (machine : Machine) (known : Nat) : DeskTask Session := do
  let records := (machine.log.extract known).toList.map Entry.record
  let (journal, storing) := session.journal.log records
  onFiles storing
  return { session with journal, machine := some machine }

/-- Shows the messages about the last records of the journal. -/
def showLast (session : Session) (count : Nat) : DeskTask Unit := do
  let records := session.journal.records.toList
  let last := records.drop (records.length - count)
  (← attempt ((last.mapM Record.message).mapError .missingField)).forM showPlain

def showWarnings (program : Program) : DeskTask Unit :=
  program.warnings.forM fun warning => showPlain ("Skipped " ++ warning.message)

/-- Reads the source anew and builds a fresh machine. Without a rule there is none. -/
def prepare (session : Session) : DeskTask Session := do
  let program := Program.ofText session.source
  showWarnings program
  match Machine.ofTable? program.table with
  | none =>
    showPlain ("Error: " ++ Machine.noRules)
    return { session with table := some program.table, machine := none }
  | some machine =>
    let journal := session.journal.clear (← get).day
    let session ← follow { session with journal, table := some program.table } machine 0
    session.showLast session.journal.records.size
    return session

/-- Shows a machine, with as many cells of its tape as a window has. -/
def showBoard (machine : Machine) (window : Int) : DeskTask Unit := do
  showAll [← attempt ((machine.board window).mapError .view)]

/-- One step of the machine; where there is none yet, one is built instead. -/
def step (session : Session) : DeskTask Session := do
  match session.machine with
  | none => session.prepare
  | some machine =>
    let session ← session.follow machine.step.2 machine.log.size
    session.showLast 1
    showBoard machine.step.2 session.settings.tapeWindow
    return session

/-- Runs the machine at a speed, which is brought into range first. A machine that cannot be shown
is not run. -/
def runAt (session : Session) (machine : Machine) (speed : Int) : DeskTask Session := do
  let _ ← attempt ((machine.board session.settings.tapeWindow).mapError .view)
  match Pacer.start machine (max 1 (min 100 speed)) (none : Option (Callback Unit)) with
  | .error _ => return session
  | .ok pacer =>
    let (ending, interruptIn, pacer) :=
      pacer.runFor session.settings.maxSteps (← get).interruptIn
    modify fun desk => { desk with interruptIn }
    let session ← session.follow pacer.machine machine.log.size
    if ending = .interrupted then showMarked "[yellow]Run paused.[/yellow]"
    match pacer.machine.error with
    | none => return session
    | some missing =>
      showPlain ("Error: " ++ missing.message)
      return session

/-- The state graph of the table, with the present state of the machine. -/
def layout (session : Session) (table : Table) : StateGraph.Layout :=
  let current := match session.machine with
    | none => ""
    | some machine => machine.configuration.state
  table.layout current session.settings.graphStartState

end Session

end TapeMachine
