import TapeMachine.Fault
import TapeMachine.Json.Writer

namespace TapeMachine

/-- Work on files. What was done before a fault stays done. -/
abbrev FileTask (α : Type) := ExceptT Fault (StateM Files.Tree) α

namespace FileTask

variable {α : Type}

/-- A look at the files. -/
def look (f : Files.Tree → α) : FileTask α := do
  return f (← get)

def attempt (result : Except Fault α) : FileTask α :=
  match result with
  | .ok value => return value
  | .error fault => throw fault

/-- A change of the files; a refused one leaves them as they are. -/
def change (f : Files.Tree → Except Files.Error Files.Tree) : FileTask Unit := do
  match f (← get) with
  | .ok files => set files
  | .error error => throw (.file error)

def readText (path : String) : FileTask String := do
  attempt (((← get).readText path).mapError .ofRead)

def readJson (path : String) : FileTask Json := do
  attempt ((Json.read (← readText path)).mapError .json)

def write (path text : String) : FileTask Unit :=
  change (·.write path text)

def append (path text : String) : FileTask Unit :=
  change (·.append path text)

/-- Writes a value over several lines. At a number with too many digits the work ends, and what
stands before it is written all the same. -/
def writeJson (path : String) (value : Json) : FileTask Unit :=
  match value.cut? with
  | none => write path value.indented
  | some text => do
    write path text
    throw .tooManyDigits

/-- The path that a text spells; a torn one need not spell any. -/
def spelled (path : Text.Wording) : FileTask String :=
  attempt (path.spelled.mapError .unencodable)

/-- Whether something is at a path. Nothing is where no path leads. -/
def lookUp (path : Text.Wording) : FileTask Bool := do
  match path.spelled with
  | .ok path => attempt (((← get).lookedUp (Files.normal path)).mapError .file)
  | .error _ => return false

/-- A change of the files that may be refused half done. -/
def makeUntil (f : Files.Tree → Files.Tree × Option Files.Error) : FileTask Unit := do
  let (files, refusal) := f (← get)
  set files
  match refusal with
  | none => return
  | some error => throw (.file error)

/-- Makes the directories above the first part of a path that has no bytes. -/
def makeAbove (error : Text.EncodeError) : FileTask Unit := do
  match (Files.directoryOf (.ofPoints (error.points.take error.first))).spelled with
  | .ok above =>
    if above ≠ "" ∧ !(← get).pathExists above then makeUntil (·.makeDirectories above)
  | .error _ => return

/-- Makes a directory and those above it. Those made before a refusal stay. -/
def makeDirectories (path : Text.Wording) : FileTask Unit :=
  match path.spelled with
  | .ok path => makeUntil (·.makeDirectories path)
  | .error error => do
    makeAbove error
    throw (.unencodable error)

/-- Like `makeDirectories`, except that nothing at all is made for a text that is no path. -/
def makeWholeWay (path : String) : FileTask Unit :=
  makeUntil (·.makeWholeWay path)

/-- The files and the outcome after the work. -/
def runOn (task : FileTask α) (files : Files.Tree) : Except Fault α × Files.Tree :=
  task.run.run files

end FileTask

end TapeMachine
