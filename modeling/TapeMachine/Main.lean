import Std.Time.Format
import TapeMachine.Tools

namespace TapeMachine.CommandLine

open Files

/-- The files and directories below a place of the current directory. -/
partial def nodesBelow (place : Place) : IO (List (Place × Node)) := do
  let here ← IO.currentDir
  let entries ← (here / join ("." :: place)).readDir
  let found ← entries.toList.mapM fun entry => do
    let inner := place ++ [entry.fileName]
    if ← entry.path.isDir then return (inner, Node.directory) :: (← nodesBelow inner)
    else return [(inner, Node.file (← IO.FS.readBinFile entry.path))]
  return found.flatten

def readFiles : IO Tree := do
  return ⟨← nodesBelow []⟩

/-- Brings the current directory from one state of the files to a later one. -/
def writeFiles (before after : Tree) : IO Unit := do
  let here ← IO.currentDir
  for (place, node) in after.nodes do
    if before.node? place ≠ some node then
      match node with
      | .directory => IO.FS.createDirAll (here / join place)
      | .file content => IO.FS.writeBinFile (here / join place) content

def today : IO String := do
  let now ← Std.Time.Timestamp.now
  let day := Std.Time.PlainDateTime.ofWallTime (now.toWallTime Std.Time.TimeZone.Offset.zero)
  return day.date.toSQLDateString

def printShown : Shown → IO Unit
  | .text text => IO.println text
  | .table title header rows => do
    for line in title.toList ++ (header.toList ++ rows).map "\t".intercalate do
      IO.println line

/-- Does some work at a desk for good: what it shows is printed, what it writes is written. -/
def perform {α : Type} (task : DeskTask α) (desk : Desk) : IO (Except Fault α × Desk) := do
  let (result, after) := task.runAt desk
  after.shown.forM printShown
  writeFiles desk.files after.files
  return (result, { after with shown := #[] })

def report (fault : Fault) : IO UInt32 := do
  IO.eprintln fault.message
  return 1

/-- Reads a line, without its end; there is none at the end of the input. -/
def readLine? : IO (Option String) := do
  let line ← (← IO.getStdin).getLine
  if line = "" then return none
  else return some (line.dropEndWhile (· == '\n')).toString

/-- Goes on with lines from the input until the tool is over. -/
partial def converse {σ : Type} (prompt : σ → String) (respond : σ → String → DeskTask (Stage σ))
    (stage : Stage σ) (desk : Desk) : IO UInt32 := do
  match stage with
  | .ended code => return UInt32.ofNat (code.getD 0).toNat
  | .asking state =>
    IO.print (prompt state ++ ": ")
    (← IO.getStdout).flush
    match ← readLine? with
    | none => report .endOfInput
    | some line =>
      match ← perform (respond state line) desk with
      | (.error fault, _) => report fault
      | (.ok stage, desk) => converse prompt respond stage desk

/-- Starts a tool and stays with it until it is over. -/
def runTool {σ : Type} (start : DeskTask (Stage σ)) (prompt : σ → String)
    (respond : σ → String → DeskTask (Stage σ)) : IO UInt32 := do
  let desk : Desk := { files := ← readFiles, day := ← today }
  match ← perform start desk with
  | (.error fault, _) => report fault
  | (.ok stage, desk) => converse prompt respond stage desk

def usage : IO UInt32 := do
  IO.eprintln "usage: simulator | pool | inspect | batch, and the options of the tool"
  return 2

end TapeMachine.CommandLine

open TapeMachine CommandLine in
def main (arguments : List String) : IO UInt32 :=
  match arguments with
  | "simulator" :: words => runTool (Tools.simulator words) Session.prompt Session.respond
  | "pool" :: words => runTool (Tools.poolBuilder words) PoolBuilder.prompt PoolBuilder.respond
  | "inspect" :: words =>
    runTool (Tools.inspector words) (fun state => nomatch state) (fun state _ => nomatch state)
  | "batch" :: words =>
    runTool (Tools.batch words) (fun state => nomatch state) (fun state _ => nomatch state)
  | _ => usage
