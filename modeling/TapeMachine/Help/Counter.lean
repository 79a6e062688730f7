import TapeMachine.Console.Painting
import TapeMachine.Decimal.Number
import TapeMachine.Files.Task
import TapeMachine.Help.Ordering
import TapeMachine.Help.Ranking
import TapeMachine.Help.Topics

namespace TapeMachine.Help

open Decimal (Exact Number)

/-- The number that a stored count is. -/
def numberOf : Json → Except Fault Number
  | .int n => .ok (.whole n)
  | .bool b => .ok (.whole (if b then 1 else 0))
  | .float x => .ok (.real x)
  | value => .error (.notANumber value.kindName)

/-- A count after one more. -/
def nextOf : Number → Json
  | .whole n => .int (n + 1)
  | .real x => .float (x + 1)

/-- Stored counts, which ought to be an object. -/
def fieldsOf : Json → Except Fault Json.Fields
  | .obj fields => .ok fields
  | value => .error (.notAnObject value.kindName)

/-- The counts after a question was asked once more. -/
def incremented (counts : Json) (question : String) : Except Fault Json.Fields := do
  let fields ← fieldsOf counts
  let number ← numberOf ((fields.get? question).getD (.int 0))
  return fields.set question (nextOf number)

/-- A stored count and what it amounts to. -/
structure Count where
  question : Json.Key
  value : Json
  amount : Exact

namespace Count

def ofField (field : Json.Key × Json) : Except Fault Count := do
  return { question := field.1, value := field.2, amount := (← numberOf field.2).exact }

/-- The larger count comes first, of equal ones the smaller name. -/
def before (a b : Count) : Bool :=
  if a.amount.same b.amount then decide (a.question.points < b.question.points)
  else b.amount.below a.amount

/-- Stored counts in order. Where one is no number there is none, and runs of counts are merged then
as if there were one. -/
def ranked (counts : List Count) : List Count :=
  if counts.all fun count => count.amount ≠ .nan then counts.mergeSort fun a b => !b.before a
  else inOrder before counts

end Count

/-- The questions asked most often, with their stored counts. -/
def mostFrequent (counts : Json) (limit : Int := defaultLimit) : Except Fault Json.Fields := do
  let counts ← (← fieldsOf counts).mapM Count.ofField
  return (first limit (Count.ranked counts)).map fun count => (count.question, count.value)

/-- A file that counts the questions asked. -/
structure Counter where
  path : Text.Wording

namespace Counter

/-- A warning goes aside, where nobody keeps it, but it has to be one that can be painted. -/
def warn (text : String) : FileTask Unit :=
  FileTask.attempt ((Console.paint text).mapError .markup)

def warnOf (counter : Counter) (text : String) (fault : Fault) : FileTask Unit :=
  warn s!"[yellow]Could not {text} {counter.path.shown}: {fault.message}[/yellow]"

/-- The counts at a path; without a readable file there are none. -/
def readAt (counter : Counter) (path : String) : FileTask Json := do
  if (← get).pathExists path then
    tryCatch (FileTask.readJson path) fun fault => do
      if fault.isUnreadable then
        counter.warnOf "read FAQ counters from" fault
        return .obj []
      else throw fault
  else return .obj []

/-- The counts in the file. Where no path leads there is none. -/
def read (counter : Counter) : FileTask Json :=
  match counter.path.spelled with
  | .ok path => counter.readAt path
  | .error _ => return .obj []

/-- Writes counts. At one with too many digits the file is left cut short. -/
def store (counter : Counter) (counts : Json.Fields) : FileTask Unit := do
  FileTask.writeJson (← FileTask.spelled counter.path) (.obj counts)

/-- Counts a question once more. A file that cannot be written is left alone. -/
def increment (counter : Counter) (question : String) : FileTask Unit := do
  let counts ← FileTask.attempt (incremented (← counter.read) question)
  tryCatch
    (do
      FileTask.makeDirectories (Files.homeOf counter.path)
      counter.store counts)
    fun fault => do
      if fault.isRefusal then counter.warnOf "update FAQ counters at" fault else throw fault

end Counter

/-- The answer to a question of a topic. If there is a counter, the question is counted first. -/
def ask (topic question : String) (counter : Option Counter := none) :
    FileTask (Option String) := do
  match question? topic question with
  | none => return none
  | some found =>
    match counter with
    | none => pure ()
    | some counter => counter.increment question
    return some found.answer

end TapeMachine.Help
