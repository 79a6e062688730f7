import TapeMachine.Console.Prompt
import TapeMachine.Help.Counter
import TapeMachine.Session.Basic

namespace TapeMachine.Session

open Console DeskTask

def choices : List String :=
  ["1", "2", "3", "4", "5", "6", "7", "8"]

def menuLines : List String :=
  ["[1] Load Program", "[2] Parse & Initialize", "[3] Step", "[4] Run", "[5] Show State Graph",
    "[6] Help", "[7] Edit Config", "[8] Exit"]

def ask (session : Session) (query : Query) : DeskTask (Stage Session) :=
  return .asking { session with query }

/-- Shows the menu and waits for a choice. -/
def toMenu (session : Session) : DeskTask (Stage Session) := do
  showMarked "\n[bold cyan]Turing Machine Simulator[/bold cyan]"
  match session.sourceName with
  | none | some "" => pure ()
  | some name => showMarked s!"[gray]Program: {name}[/gray]"
  menuLines.forM showMarked
  session.ask .choice

def loadProgram (session : Session) (path : Text.Wording) : DeskTask (Stage Session) := do
  if ← onFiles (FileTask.lookUp path) then
    let session ← session.load path
    showMarked s!"[green]Loaded {path.shown}.[/green]"
    (← session.prepare).toMenu
  else
    showMarked s!"[red]Program file {path.shown} not found.[/red]"
    session.toMenu

/-- A run needs a machine that has not halted. -/
def beginRun (session : Session) : DeskTask (Stage Session) := do
  let session ← if session.machine.isNone then session.prepare else pure session
  match session.machine with
  | none => session.toMenu
  | some machine =>
    if machine.halted then
      showMarked "[yellow]Machine already halted. Reset to run again.[/yellow]"
      session.toMenu
    else session.ask .speed

def run (session : Session) (speed : Int) : DeskTask (Stage Session) := do
  match session.machine with
  | none => session.toMenu
  | some machine => (← session.runAt machine speed).toMenu

def showGraph (session : Session) : DeskTask (Stage Session) := do
  match session.table with
  | none =>
    showMarked "[red]Parse a program first.[/red]"
    session.toMenu
  | some table =>
    let layout := session.layout table
    showAll layout.boards
    session.ask (.exportGraph layout)

def writeGraph (session : Session) (layout : StateGraph.Layout) (path : String) :
    DeskTask (Stage Session) := do
  onFiles (FileTask.writeJson path layout.json)
  showMarked s!"[green]Graph written to {path}.[/green]"
  session.toMenu

/-- Shows texts under their numbers. -/
def showNumbered (texts : List String) : DeskTask Unit :=
  (texts.zipIdx).forM fun (text, index) => showMarked s!"[{index}] {text}"

/-- The member of a list at an index that may lie outside it. -/
def pick? {α : Type} (xs : List α) (index : Int) : Option α :=
  if index < 0 then none else xs[index.toNat]?

def beginHelp (session : Session) : DeskTask (Stage Session) := do
  showMarked s!"\n[bold]{Help.welcome}[/bold]"
  showNumbered (Help.topics.map Help.Topic.name)
  session.ask .topic

def invalidChoice (session : Session) : DeskTask (Stage Session) := do
  showMarked "[red]Invalid choice.[/red]"
  session.toMenu

def chooseTopic (session : Session) (index : Int) : DeskTask (Stage Session) := do
  match pick? Help.topics index with
  | none => session.invalidChoice
  | some topic =>
    showNumbered (topic.questions.map Help.Question.text)
    session.ask (.question topic)

/-- The answer to a question, which is counted. -/
def chooseQuestion (session : Session) (topic : Help.Topic) (index : Int) :
    DeskTask (Stage Session) := do
  match pick? topic.questions index with
  | none => session.invalidChoice
  | some question =>
    let counter : Help.Counter := ⟨session.settings.countsFile⟩
    let answer ← onFiles (Help.ask topic.id question.id (some counter))
    showMarked ("\n" ++ answer.getD "None")
    session.toMenu

def beginEdit (session : Session) : DeskTask (Stage Session) := do
  showMarked "\n[bold]Edit Configuration[/bold]"
  session.ask (.edit .speed session.settings)

/-- Settings that cannot be stored are not taken over either. -/
def finishEdit (session : Session) (draft : Settings) : DeskTask (Stage Session) := do
  let refused ← tryCatch
    (do
      onFiles (draft.save Settings.defaultPath)
      return none)
    fun fault =>
      match fault with
      | .settings _ | .tooManyDigits => return some fault
      | other => throw other
  match refused with
  | some fault =>
    showMarked s!"[red]Configuration not saved: {fault.message}[/red]"
    session.toMenu
  | none =>
    showMarked "[green]Configuration updated successfully.[/green]"
    toMenu { session with settings := draft }

/-- The draft with the answer to a query, and the query after it; none for no answer. -/
def editWith? (draft : Settings) (line : String) : Edit → Option (Settings × Option Edit)
  | .speed => (integerAnswer? (some draft.speed) line).map fun speed =>
      ({ draft with speed }, some .maxSteps)
  | .maxSteps => (integerAnswer? (some draft.maxSteps) line).map fun maxSteps =>
      ({ draft with maxSteps }, some .tapeWindow)
  | .tapeWindow => (integerAnswer? (some draft.tapeWindow) line).map fun tapeWindow =>
      ({ draft with tapeWindow }, some .logSteps)
  | .logSteps => (yesNoAnswer? draft.logSteps line).map fun logSteps =>
      ({ draft with logSteps }, some .defaultProgram)
  | .defaultProgram =>
      some ({ draft with defaultProgram := wordingAnswer draft.defaultProgram line },
        some .graphStartState)
  | .graphStartState =>
      some ({ draft with graphStartState := wordingAnswer draft.graphStartState line }, none)

def edit (session : Session) (field : Edit) (draft : Settings) (line : String) :
    DeskTask (Stage Session) :=
  match editWith? draft line field with
  | none => session.ask (.edit field draft)
  | some (draft, some next) => session.ask (.edit next draft)
  | some (draft, none) => session.finishEdit draft

def choose (session : Session) (choice : String) : DeskTask (Stage Session) := do
  match choice with
  | "1" => session.ask .programFile
  | "2" => (← session.prepare).toMenu
  | "3" => (← session.step).toMenu
  | "4" => session.beginRun
  | "5" => session.showGraph
  | "6" => session.beginHelp
  | "7" => session.beginEdit
  | _ =>
    showMarked "[bold green]Goodbye![/bold green]"
    return .ended none

/-- Goes on with an answer, or waits for another where there is none. -/
def withAnswer {α : Type} (session : Session) (answer : Option α)
    (next : α → DeskTask (Stage Session)) : DeskTask (Stage Session) :=
  match answer with
  | none => return .asking session
  | some answer => next answer

/-- What a session asks for. -/
def prompt (session : Session) : String :=
  match session.query with
  | .choice => "\nChoose an option"
  | .programFile => "Program file"
  | .speed => "Speed (1-100)"
  | .exportGraph _ => "Export graph as JSON?"
  | .graphFile _ => "Output file"
  | .topic => "Choose a topic by Index"
  | .question _ => "Choose a question by Index"
  | .edit .speed _ => "Speed (1-100)"
  | .edit .maxSteps _ => "Max Steps per run"
  | .edit .tapeWindow _ => "Visible tape cells"
  | .edit .logSteps _ => "Write step log to disk?"
  | .edit .defaultProgram _ => "Default program"
  | .edit .graphStartState _ => "State drawn as start node"

/-- What a session makes of a line. -/
def respond (session : Session) (line : String) : DeskTask (Stage Session) :=
  match session.query with
  | .choice => session.withAnswer (choiceAnswer? choices "8" line) session.choose
  | .programFile => session.loadProgram (wordingAnswer session.settings.defaultProgram line)
  | .speed => session.withAnswer (integerAnswer? (some session.settings.speed) line) session.run
  | .exportGraph layout =>
    session.withAnswer (yesNoAnswer? false line) fun wanted =>
      if wanted then session.ask (.graphFile layout) else session.toMenu
  | .graphFile layout => session.writeGraph layout (textAnswer (some "graph.json") line)
  | .topic => session.withAnswer (integerAnswer? none line) session.chooseTopic
  | .question topic =>
    session.withAnswer (integerAnswer? none line) (session.chooseQuestion topic)
  | .edit field draft => session.edit field draft line

/-- Begins a session, with the default program if there is one. -/
def start (settings : Settings) : DeskTask (Stage Session) := do
  let journal := settings.journal (← get).day
  onFiles journal.start
  let session : Session := { settings, journal }
  if ← onFiles (FileTask.lookUp settings.defaultProgram) then
    (← session.load settings.defaultProgram).toMenu
  else session.toMenu

end TapeMachine.Session
