import TapeMachine.Batch
import TapeMachine.Console.Options
import TapeMachine.Inspection
import TapeMachine.PoolBuilder
import TapeMachine.Session.Automation
import TapeMachine.Session.Menu

namespace TapeMachine.Tools

open Console DeskTask

/-- The options of the simulator. -/
def simulatorOptions : List OptionSpec :=
  [⟨"--config", .text, false⟩, ⟨"--program", .text, false⟩, ⟨"--run", .switch, false⟩,
    ⟨"--max-steps", .integer, false⟩, ⟨"--speed", .integer, false⟩,
    ⟨"--graph-json", .text, false⟩]

/-- The options of the pool builder. -/
def poolOptions : List OptionSpec :=
  [⟨"--programs", .text, false⟩, ⟨"--output", .text, true⟩, ⟨"--all", .switch, false⟩]

/-- The options of the inspector. -/
def inspectorOptions : List OptionSpec :=
  [⟨"--program", .text, true⟩, ⟨"--graph", .switch, false⟩]

/-- The options of a batch run. -/
def batchOptions : List OptionSpec :=
  [⟨"--pool", .text, true⟩, ⟨"--results", .text, false⟩, ⟨"--output", .text, false⟩,
    ⟨"--batch_size", .integer, false⟩, ⟨"--max_steps", .integer, false⟩,
    ⟨"--log_dir", .text, false⟩]

/-- Goes on with the options of a command line, or ends with the code of its refusal. -/
def withOptions {σ : Type} (specs : List OptionSpec) (words : List String)
    (next : Options → DeskTask (Stage σ)) : DeskTask (Stage σ) :=
  match Options.read specs words with
  | .error refusal => return .ended (some refusal.code)
  | .ok options => next options

/-- Whether a fault lies in the settings or in the file that holds them. -/
def blamesSettings : Fault → Bool
  | .file error => error.problem = .notFound ∨ error.problem = .nullCharacter
  | .json .tooDeep => false
  | .noSettings _ | .settings _ | .notSettings _ | .json _ | .encoding _ | .unencodable _
  | .noPath => true
  | _ => false

/-- The path in an option, or the one that is meant without it. -/
def pathIn (options : Options) (name meant : String) : Except Fault String :=
  match options.get? name with
  | some (.text path) => .ok path
  | some .leftOut => .error .noPath
  | _ => .ok meant

/-- The settings in a file. A fault in them is shown, and there are none. -/
def loadSettings? (path : Except Fault String) : DeskTask (Option Settings) :=
  tryCatch (do return some (← onFiles (Settings.load (← attempt path)))) fun fault => do
    if blamesSettings fault then
      showMarked s!"[red]Error: {fault.message}[/red]"
      return none
    else throw fault

/-- What the options ask for, if they name a program. -/
def automation? (options : Options) : Option Automation := do
  let program ← options.text? "--program"
  if program = "" then none
  else
    some {
      program
      runs := options.isOn "--run"
      maxSteps := options.integer? "--max-steps"
      speed := options.integer? "--speed"
      graphFile := options.text? "--graph-json" }

/-- The simulator: a session at the menu, or the run of one program. -/
def simulator (words : List String) : DeskTask (Stage Session) :=
  withOptions simulatorOptions words fun options => do
    match ← loadSettings? (pathIn options "--config" Settings.defaultPath) with
    | none => return .ended (some 1)
    | some settings =>
      match automation? options with
      | none => Session.start settings
      | some automation => return .ended (some (← automation.run settings))

/-- The pool builder. -/
def poolBuilder (words : List String) : DeskTask (Stage PoolBuilder) :=
  withOptions poolOptions words fun options => do
    let directory ← attempt (pathIn options "--programs" "programs")
    let output := options.text? "--output"
    if options.isOn "--all" then
      PoolBuilder.saveAll directory output
      return .ended none
    else PoolBuilder.start directory output

/-- The inspector: shows all about a program. -/
def inspector (words : List String) : DeskTask (Stage Empty) :=
  withOptions inspectorOptions words fun options => do
    let path ← attempt (pathIn options "--program" "")
    let program ← onFiles (Program.load path)
    (program.report path (options.isOn "--graph")).forM showLine
    return .ended none

/-- The batch run that the options of a command line describe. -/
def batchOf (options : Options) : Except Fault Batch := do
  let base : Batch := { pool := ← pathIn options "--pool" "" }
  let output := match options.get? "--output" with
    | some .leftOut => "[]"
    | _ => (options.text? "--output").getD base.output
  let budget := match options.get? "--max_steps" with
    | some .leftOut => none
    | _ => options.integer? "--max_steps" <|> base.budget
  return { base with
    results := ← pathIn options "--results" base.results
    output
    size := (options.integer? "--batch_size").getD base.size
    budget }

/-- Runs a batch, for which there may be no size. -/
def runBatch (batch : Batch) (journal : Journal) (size : Option OptionValue) : DeskTask Unit :=
  if size = some .leftOut then
    tryCatch (Batch.run { batch with size := 0 } journal) fun fault =>
      throw (if fault = .emptyBatches then .noNumber else fault)
  else batch.run journal

/-- The batch run of a pool. -/
def batch (words : List String) : DeskTask (Stage Empty) :=
  withOptions batchOptions words fun options => do
    let directory ← attempt (pathIn options "--log_dir" "logs/")
    let journal : Journal := { directory, day := (← get).day }
    onFiles journal.start
    runBatch (← attempt (batchOf options)) journal (options.get? "--batch_size")
    return .ended none

end TapeMachine.Tools
