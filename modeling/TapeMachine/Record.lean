import TapeMachine.Json.Display
import TapeMachine.Json.Writer

namespace TapeMachine

/-- A record of a log: fields in order. -/
abbrev Record := Json.Fields

namespace Record

/-- A field that a message needs; its name where it is missing. -/
def shownField (record : Record) (name : String) : Except String String :=
  match record.get? name with
  | some value => .ok value.display
  | none => .error name

def startedMessage (record : Record) : Except String String := do
  let transitions ← shownField record "transitions"
  let state ← shownField record "state"
  let tape ← shownField record "tape"
  return s!"Initialized with {transitions} transitions\nInitial state: {state}, Tape: {tape}"

/-- The line about a write, for a record that has one. -/
def writeLine (record : Record) : String :=
  match record.get? "write" with
  | none | some .null => ""
  | some value => "\n  Write: " ++ value.display

def moveLine (record : Record) : Except String String :=
  match record.get? "move" with
  | some (.str "L") => return "\n  Move: Left to position " ++ (← shownField record "head")
  | some (.str "R") => return "\n  Move: Right to position " ++ (← shownField record "head")
  | _ => return "\n  Move: None (halt)"

def stepMessage (record : Record) : Except String String := do
  let step ← shownField record "step"
  let state ← shownField record "state"
  let read ← shownField record "read"
  let next ← shownField record "next_state"
  let move ← moveLine record
  return s!"Step {step}: {state} read {read} -> {next}" ++ writeLine record ++ move

/-- What the console shows of a record; one of no known kind is shown as it is stored. The name of
a missing field is the error. -/
def message (record : Record) : Except String String :=
  match record.get? "event" with
  | some (.str "initialized") => startedMessage record
  | some (.str "step") => stepMessage record
  | some (.str "halted") => return "Machine halted at state " ++ (← shownField record "state")
  | some (.str "already_halted") => .ok "Machine already halted. Reset to run again."
  | some (.str "error") => do
    let state ← shownField record "state"
    let symbol ← shownField record "symbol"
    return s!"ERROR: No transition for state {state}, symbol {symbol}"
  | _ => .ok (Json.obj record).compact

/-- A record on one line of a log file. -/
def line (record : Record) : String :=
  (Json.obj record).compact ++ "\n"

end Record

end TapeMachine
