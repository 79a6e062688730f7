import TapeMachine.Files.Task
import TapeMachine.Record

namespace TapeMachine

open Text (Wording)

/-- A log of records: those of the session, and a file for each day if it is kept on disk. -/
structure Journal where
  directory : Wording := "logs/"
  fileStart : Wording := "turing_"
  onDisk : Bool := true
  day : String
  records : Array Record := #[]

namespace Journal

/-- The file of the day. -/
def current (journal : Journal) : Wording :=
  Files.belowTorn journal.directory (journal.fileStart ++ journal.day ++ ".jsonl")

/-- A file of the day beside the main one. -/
def beside (journal : Journal) (kind : String) : Wording :=
  Files.belowTorn journal.directory (kind ++ "_" ++ journal.day ++ ".jsonl")

/-- Makes the directory that the journal is kept in. -/
def start (journal : Journal) : FileTask Unit :=
  if journal.onDisk then FileTask.makeDirectories journal.directory else return

def remember (journal : Journal) (records : List Record) : Journal :=
  { journal with records := journal.records ++ records }

/-- Adds records to a file, if the journal is kept on disk. -/
def store (journal : Journal) (path : Wording) (records : List Record) : FileTask Unit := do
  if journal.onDisk then
    FileTask.append (← FileTask.spelled path) (String.join (records.map Record.line))

/-- The journal with further records, and the work of storing them. It remembers them even if they
cannot be stored. -/
def log (journal : Journal) (records : List Record) : Journal × FileTask Unit :=
  (journal.remember records, journal.store journal.current records)

def logHalting (journal : Journal) (records : List Record) : FileTask Unit :=
  journal.store (journal.beside "halting") records

def logErrors (journal : Journal) (records : List Record) : FileTask Unit :=
  journal.store (journal.beside "errors") records

/-- Turns to the file of another day. -/
def rotate (journal : Journal) (day : String) : Journal :=
  { journal with day }

/-- Begins a session; what is on disk stays there. -/
def clear (journal : Journal) (day : String) : Journal :=
  { journal with day, records := #[] }

/-- The messages about the records, or the name of a field that one of them lacks. -/
def messages (journal : Journal) : Except String (List String) :=
  journal.records.toList.mapM Record.message

end Journal

end TapeMachine
