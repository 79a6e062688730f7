import TapeMachine.Distinct
import TapeMachine.Files.Task
import TapeMachine.Source.Program
import TapeMachine.Text.Blank

namespace TapeMachine

open Text

/-- The program in a file. -/
def Program.load (path : String) : FileTask Program := do
  return .ofText (← FileTask.readText (Files.normal path))

namespace Pool

/-- The names of program files. -/
def programPattern : String := "*.tm"

/-- The path down from a directory. -/
def pathFrom (directory : String) (way : List String) : String :=
  Files.normal (Files.join (directory :: way))

/-- The paths in a directory that a pattern describes, in order. A directory that is not there has
none. -/
def collect (directory : String) (pattern : String := programPattern) :
    FileTask (List String) := do
  let home := Files.normal directory
  if !(← FileTask.lookUp home) then return []
  let parts ← FileTask.attempt ((Files.readPattern pattern).mapError .pattern)
  let files ← get
  match files.resolve home with
  | .error _ => return []
  | .ok (place, _) =>
    let ways ← FileTask.attempt ((files.select place parts).mapError .file)
    return (distinct (ways.map (pathFrom home))).mergeSort fun a b => decide (a ≤ b)

/-- Writes a pool, a path on each line. -/
def write (programs : List String) (path : String) : FileTask Unit := do
  FileTask.makeWholeWay (Files.parent path)
  FileTask.write path (String.join (programs.map (· ++ "\n")))

/-- The paths in the text of a pool: its lines without outer blanks, but for blank ones. -/
def ofText (text : String) : List String :=
  (((splitOn '\n' text.toList).map trim).filter (· ≠ [])).map String.ofList

def load (path : String) : FileTask (List String) := do
  return ofText (← FileTask.readText path)

end Pool

end TapeMachine
