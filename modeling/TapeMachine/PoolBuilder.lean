import TapeMachine.Console.Desk
import TapeMachine.Console.Prompt
import TapeMachine.Decimal.Text
import TapeMachine.Pool

namespace TapeMachine

open Console DeskTask

/-- What a pool builder waits to be told. -/
inductive PoolQuery where
  | choice
  | path
  | confirmAll
  deriving DecidableEq, Repr

/-- A pool of programs in the making. -/
structure PoolBuilder where
  programs : List String
  output : Option String
  selected : List String := []
  query : PoolQuery := .choice
  deriving DecidableEq, Repr

namespace PoolBuilder

def choices : List String :=
  ["1", "2", "3", "4", "5"]

def menuLines : List String :=
  ["[1] List programs", "[2] Add a program by path", "[3] Add all programs", "[4] Save and exit",
    "[5] Cancel and exit without saving"]

def ask (builder : PoolBuilder) (query : PoolQuery) : DeskTask (Stage PoolBuilder) :=
  return .asking { builder with query }

def toMenu (builder : PoolBuilder) : DeskTask (Stage PoolBuilder) := do
  showMarked "\n[bold cyan]Program Pool Builder Menu[/bold cyan]"
  menuLines.forM showMarked
  builder.ask .choice

/-- A program as it is listed. -/
def row (path : String) : DeskTask (List String) := do
  let program ← onFiles (Program.load path)
  return [path, toString program.table.rules.length, toString program.warnings.length]

/-- Lists the programs, the paths without marks. -/
def list (builder : PoolBuilder) : DeskTask (Stage PoolBuilder) := do
  let rows ← builder.programs.mapM row
  let shown ← attempt ((rows.mapM (List.mapM plain)).mapError .markup)
  showAll [.table (some "Available Programs") (some ["Path", "Rules", "Warnings"]) shown]
  builder.toMenu

/-- Adds a program unless it is unknown or in the pool already. -/
def add (builder : PoolBuilder) (path : String) : DeskTask (Stage PoolBuilder) := do
  if path ∉ builder.programs then
    showMarked s!"[red]Program {path} not found![/red]"
    builder.toMenu
  else if path ∈ builder.selected then
    showMarked s!"[yellow]{path} already in pool.[/yellow]"
    builder.toMenu
  else
    showMarked s!"[green]Added {path}.[/green]"
    toMenu { builder with selected := builder.selected ++ [path] }

/-- The selection with the programs that are not in it yet. -/
def withAll (builder : PoolBuilder) : PoolBuilder :=
  { builder with
    selected := builder.programs.foldl
      (fun selected path => if path ∈ selected then selected else selected ++ [path])
      builder.selected }

def count (programs : List String) : String :=
  Decimal.grouped programs.length

def addAll (builder : PoolBuilder) (confirmed : Bool) : DeskTask (Stage PoolBuilder) := do
  if confirmed then
    showMarked ("[green]Added all " ++ count builder.programs ++ " programs.[/green]")
    builder.withAll.toMenu
  else builder.toMenu

/-- Saves a pool under a path, of which there must be one. -/
def store (programs : List String) (output : Option String) : DeskTask Unit := do
  match output with
  | none => throw .noPath
  | some path =>
    onFiles (Pool.write programs path)
    showMarked (s!"[green]Saved pool with " ++ count programs ++ s!" programs to {path}.[/green]")

/-- An empty selection is not saved. -/
def save (builder : PoolBuilder) : DeskTask (Stage PoolBuilder) := do
  if builder.selected = [] then
    showMarked "[yellow]No programs selected, nothing saved.[/yellow]"
  else store builder.selected builder.output
  return .ended none

def choose (builder : PoolBuilder) (choice : String) : DeskTask (Stage PoolBuilder) := do
  match choice with
  | "1" => builder.list
  | "2" => builder.ask .path
  | "3" => builder.ask .confirmAll
  | "4" => builder.save
  | _ =>
    showMarked "[red]Canceled. No pool saved.[/red]"
    return .ended none

/-- What a pool builder asks for. -/
def prompt (builder : PoolBuilder) : String :=
  match builder.query with
  | .choice => "\nChoose an option"
  | .path => "Enter program path exactly (e.g., programs/binary_increment.tm)"
  | .confirmAll => "Are you sure you want to add ALL programs?"

/-- What a pool builder makes of a line; one that is no answer changes nothing. -/
def respond (builder : PoolBuilder) (line : String) : DeskTask (Stage PoolBuilder) :=
  match builder.query with
  | .choice =>
    match choiceAnswer? choices "5" line with
    | none => return .asking builder
    | some choice => builder.choose choice
  | .path => builder.add (textAnswer none line)
  | .confirmAll =>
    match yesNoAnswer? false line with
    | none => return .asking builder
    | some confirmed => builder.addAll confirmed

/-- The programs in a directory. -/
def programsIn (directory : String) : DeskTask (List String) :=
  onFiles (Pool.collect directory)

/-- Begins with the programs in a directory, of which there must be some. -/
def start (directory : String) (output : Option String) : DeskTask (Stage PoolBuilder) := do
  let programs ← programsIn directory
  if programs = [] then
    showMarked s!"[red]No programs found in {directory}[/red]"
    return .ended none
  else
    showMarked ("[green]Found " ++ count programs ++ s!" programs in {directory}.[/green]")
    toMenu { programs, output }

/-- Saves all programs in a directory at once. -/
def saveAll (directory : String) (output : Option String) : DeskTask Unit := do
  store (← programsIn directory) output

end PoolBuilder

end TapeMachine
