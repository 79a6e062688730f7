import TapeMachine.Console.Desk
import TapeMachine.Decimal.Text
import TapeMachine.Journal
import TapeMachine.Machine
import TapeMachine.Pool

namespace TapeMachine

/-- The run of a program in short. -/
structure Outcome where
  steps : Nat
  halted : Bool
  error : Option Missing
  state : String
  tape : String
  deriving DecidableEq, Repr

/-- What became of a program. One without rules has no run. -/
structure Summary where
  program : String
  rules : Nat
  warnings : Nat
  outcome : Option Outcome
  deriving DecidableEq, Repr

namespace Summary

def ofProgram (path : String) (program : Program) (budget : Int) : Summary where
  program := path
  rules := program.table.rules.length
  warnings := program.warnings.length
  outcome := (Machine.ofTable? program.table).map fun machine =>
    let (steps, machine) := machine.run budget
    { steps
      halted := machine.halted
      error := machine.error
      state := machine.configuration.state
      tape := machine.configuration.text }

def halted (summary : Summary) : Bool :=
  summary.outcome.any Outcome.halted

def error? (summary : Summary) : Option String :=
  match summary.outcome with
  | none => some Machine.noRules
  | some outcome => outcome.error.map Missing.message

def steps (summary : Summary) : Nat :=
  (summary.outcome.map Outcome.steps).getD 0

/-- The fields about the machine at the end of its run, if there was one. -/
def finalFields (summary : Summary) : Record :=
  match summary.outcome with
  | none => []
  | some outcome => [("final_state", .str outcome.state), ("tape", .str outcome.tape)]

def firstFields (summary : Summary) : Record :=
  [("program", .str summary.program), ("rules", .ofNat summary.rules),
    ("warnings", .ofNat summary.warnings), ("steps_taken", .ofNat summary.steps),
    ("halted", .bool summary.halted), ("error", .ofOption summary.error?)]

def record (summary : Summary) : Record :=
  summary.firstFields ++ summary.finalFields

end Summary

/-- Runs the program in a file, at most for `budget` steps. -/
def simulate (path : String) (budget : Int) : FileTask Summary := do
  return .ofProgram path (← Program.load path) budget

/-- The same for a budget that may have been left out. Without one nothing can be run, and only a
program without rules has a summary. -/
def simulateWithin (path : String) : Option Int → FileTask Summary
  | some budget => simulate path budget
  | none => do
    let program ← Program.load path
    if program.table.rules = [] then return .ofProgram path program 0 else throw .noNumber

/-- A pool of programs to be run in batches. What is done is recorded beside the results. -/
structure Batch where
  pool : String
  results : String := "results"
  output : String := "results"
  size : Int := 64
  budget : Option Int := some 10000

namespace Batch

def folder (batch : Batch) : String :=
  Files.normal (Files.below batch.results (Files.stem batch.pool))

def resultsFile (batch : Batch) : String :=
  Files.normal (Files.below batch.folder (batch.output ++ ".jsonl"))

def checkpointFile (batch : Batch) : String :=
  Files.normal (Files.below batch.folder (batch.output ++ "_checkpoint.json"))

/-- The programs that a checkpoint calls completed. -/
def completedIn : Json → Except Fault Json
  | .obj fields => .ok ((Dictionary.get? fields "completed").getD (.arr []))
  | value => .error (.notAnObject value.kindName)

/-- A checkpoint that is not there completes nothing. -/
def readCheckpoint (batch : Batch) : FileTask Json := do
  if ← FileTask.lookUp batch.checkpointFile then
    FileTask.attempt (completedIn (← FileTask.readJson batch.checkpointFile))
  else return .arr []

def writeCheckpoint (batch : Batch) (completed : Json) : FileTask Unit :=
  FileTask.writeJson batch.checkpointFile (.obj [("completed", completed)])

/-- Whether a program is among those completed. -/
def isCompleted (completed : Json) (program : String) : Except Fault Bool :=
  match completed with
  | .arr items => .ok (items.any fun
    | .str s => s = program
    | _ => false)
  | .str s => .ok (Text.occursIn program.toList s.toList)
  | .torn points => .ok (Text.occursIn (program.toList.map Char.toNat) points)
  | .obj fields => .ok (Dictionary.get? fields program).isSome
  | value => .error (.notACollection value.kindName)

def withCompleted (completed : Json) (program : String) : Except Fault Json :=
  match completed with
  | .arr items => .ok (.arr (items ++ [.str program]))
  | value => .error (.notAList value.kindName)

def pendingOf (completed : Json) (programs : List String) : Except Fault (List String) :=
  programs.filterM fun program => return !(← isCompleted completed program)

def say (text : String) : DeskTask Unit :=
  DeskTask.showLine ("[simulate_program] " ++ text)

/-- The summaries of a batch so far and the programs completed. -/
structure Progress where
  summaries : Array Summary := #[]
  completed : Json

/-- Runs a program of a batch. One that the file system refuses is reported and passed over. -/
def tryProgram (budget : Option Int) (progress : Progress) (program : String) :
    DeskTask Progress := do
  let outcome ← tryCatch (some <$> DeskTask.onFiles (simulateWithin program budget)) fun fault => do
    if fault.isRefusal then
      say s!"[WARNING] Failed to read {program}: {fault.message}"
      return none
    else throw fault
  match outcome with
  | none => return progress
  | some summary =>
    let completed ← DeskTask.attempt (withCompleted progress.completed program)
    return { summaries := progress.summaries.push summary, completed }

/-- Stores what a batch came to: the results, the journal's share of them and the checkpoint. -/
def conclude (batch : Batch) (journal : Journal) (progress : Progress) : FileTask Unit := do
  let summaries := progress.summaries.toList
  let records (chosen : List Summary) := chosen.map Summary.record
  FileTask.append batch.resultsFile (String.join ((records summaries).map Record.line))
  journal.logHalting (records (summaries.filter Summary.halted))
  journal.logErrors (records (summaries.filter fun summary => summary.error?.isSome))
  batch.writeCheckpoint progress.completed

/-- The programs in batches of a size, the last of which may be smaller. -/
def chunks (size : Nat) (programs : List String) : List (List String) :=
  if size = 0 ∨ programs = [] then []
  else programs.take size :: chunks size (programs.drop size)
termination_by programs.length
decreasing_by
  rename_i h
  have : 0 < programs.length := List.length_pos_iff.mpr fun empty => h (.inr empty)
  rw [List.length_drop]
  omega

theorem flatten_chunks {size : Nat} (h : 0 < size) (programs : List String) :
    (chunks size programs).flatten = programs := by
  fun_induction chunks size programs with
  | case1 programs none =>
    rcases none with none | none
    · omega
    · simp [none]
  | case2 programs some ih => rw [List.flatten_cons, ih, List.take_append_drop]

/-- Runs one batch; what is completed after it. -/
def runChunk (batch : Batch) (journal : Journal) (completed : Json) (programs : List String) :
    DeskTask Json := do
  let progress ← programs.foldlM (tryProgram batch.budget) { completed }
  DeskTask.onFiles (batch.conclude journal progress)
  say "[INFO] Batch completed. Checkpoint saved."
  return progress.completed

/-- Runs the programs of the pool that are not completed yet. A size below zero makes no batch. -/
def run (batch : Batch) (journal : Journal) : DeskTask Unit := do
  DeskTask.onFiles (FileTask.makeWholeWay batch.folder)
  let programs ← DeskTask.onFiles (Pool.load batch.pool)
  let completed ← DeskTask.onFiles batch.readCheckpoint
  let pending ← DeskTask.attempt (pendingOf completed programs)
  say ("Loaded " ++ Decimal.grouped programs.length ++ " total programs. " ++
    Decimal.grouped pending.length ++ " pending.")
  DeskTask.onFiles (FileTask.append batch.resultsFile "")
  if batch.size = 0 then throw .emptyBatches
  let _ ← (chunks batch.size.toNat pending).foldlM (batch.runChunk journal) completed
  say "[SUCCESS] All programs simulated. Results saved."

end Batch

end TapeMachine
