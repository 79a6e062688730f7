import TapeMachine.Json.Display

namespace TapeMachine

open Text (Wording)

/-- How the tools behave. Fields that no tool knows are kept as they came. -/
structure Settings where
  speed : Int := 50
  maxSteps : Int := 10000
  tapeWindow : Int := 9
  logSteps : Bool := true
  outputDirectory : Wording := "logs/"
  logFilePrefix : Wording := "turing_"
  defaultProgram : Wording := "programs/binary_increment.tm"
  graphStartState : Wording := "q0"
  countsFile : Wording := "logs/faq_counts.json"
  others : Json.Fields := []

namespace Settings

/-- What kind of value a field holds. -/
inductive Kind where
  | integer
  | truth
  | text
  deriving DecidableEq, Repr

def Kind.name : Kind → String
  | integer => "int"
  | truth => "bool"
  | text => "str"

inductive Error where
  | missing (key : String)
  | wrongKind (key : String) (expected : Kind) (found : String)
  | speedOutOfRange
  | noSteps
  | noWindow
  deriving DecidableEq, Repr

def Error.message : Error → String
  | missing key => s!"Missing required configuration key: {key}"
  | wrongKind key expected found =>
    s!"Config key '{key}' expected <class '{expected.name}'>, got <class '{found}'>."
  | speedOutOfRange => "Speed must be between 1 and 100."
  | noSteps => "max_steps must be positive."
  | noWindow => "tape_window must be positive."

/-- The names of the known fields, in order. -/
def names : List String :=
  ["speed", "max_steps", "tape_window", "log_steps", "output_directory", "log_file_prefix",
    "default_program", "graph_start_state", "faq_counter_file"]

def isKnown (key : Json.Key) : Bool :=
  names.any fun name => key == .text name

def knownFields (settings : Settings) : Json.Fields :=
  [("speed", .int settings.speed), ("max_steps", .int settings.maxSteps),
    ("tape_window", .int settings.tapeWindow), ("log_steps", .bool settings.logSteps),
    ("output_directory", .ofWording settings.outputDirectory),
    ("log_file_prefix", .ofWording settings.logFilePrefix),
    ("default_program", .ofWording settings.defaultProgram),
    ("graph_start_state", .ofWording settings.graphStartState),
    ("faq_counter_file", .ofWording settings.countsFile)]

/-- The settings as they are stored, unknown fields last. -/
def fields (settings : Settings) : Json.Fields :=
  settings.knownFields ++ settings.others

def integerField (fields : Json.Fields) (key : String) : Except Error Int :=
  match fields.get? key with
  | none => .error (.missing key)
  | some (.int n) => .ok n
  | some value => .error (.wrongKind key .integer value.kindName)

def truthField (fields : Json.Fields) (key : String) : Except Error Bool :=
  match fields.get? key with
  | none => .error (.missing key)
  | some (.bool b) => .ok b
  | some value => .error (.wrongKind key .truth value.kindName)

def textField (fields : Json.Fields) (key : String) : Except Error Wording :=
  match fields.get? key with
  | none => .error (.missing key)
  | some (.str s) => .ok s
  | some (.torn points) => .ok (.torn points)
  | some value => .error (.wrongKind key .text value.kindName)

/-- The first number out of its range. -/
def rangeError? (settings : Settings) : Option Error :=
  if settings.speed < 1 ∨ 100 < settings.speed then some .speedOutOfRange
  else if settings.maxSteps ≤ 0 then some .noSteps
  else if settings.tapeWindow ≤ 0 then some .noWindow
  else none

/-- Reads stored settings: every known field must be there and of its kind, then every number in
its range. -/
def ofFields (fields : Json.Fields) : Except Error Settings := do
  let speed ← integerField fields "speed"
  let maxSteps ← integerField fields "max_steps"
  let tapeWindow ← integerField fields "tape_window"
  let logSteps ← truthField fields "log_steps"
  let outputDirectory ← textField fields "output_directory"
  let logFilePrefix ← textField fields "log_file_prefix"
  let defaultProgram ← textField fields "default_program"
  let graphStartState ← textField fields "graph_start_state"
  let countsFile ← textField fields "faq_counter_file"
  let settings : Settings :=
    { speed, maxSteps, tapeWindow, logSteps, outputDirectory, logFilePrefix, defaultProgram,
      graphStartState, countsFile, others := fields.filter fun field => !isKnown field.1 }
  match settings.rangeError? with
  | some error => .error error
  | none => .ok settings

/-- Why a stored value is no set of fields. -/
inductive MergeError where
  | notFields (found : String)
  | notPair (index : Nat)
  | wrongLength (index length : Nat)
  | notName (found : String)
  deriving DecidableEq, Repr

def MergeError.message : MergeError → String
  | notFields found => s!"'{found}' object is not iterable"
  | notPair index => s!"cannot convert dictionary update sequence element #{index} to a sequence"
  | wrongLength index length =>
    s!"dictionary update sequence element #{index} has length {length}; 2 is required"
  | notName found => s!"unhashable type: '{found}'"

/-- The parts of a value that is a sequence. -/
def parts? : Json → Option (List Json)
  | .arr items => some items
  | .str s => some (s.toList.map fun c => .str c.toString)
  | .torn points => some (points.map fun point => .ofKey (.ofPoints [point]))
  | .obj fields => some (fields.map fun field => .ofKey field.1)
  | _ => none

/-- A value in the place of a name. -/
def keyOf (value : Json) : Except MergeError Json.Key :=
  match value.key? with
  | some key => .ok key
  | none => .error (.notName value.kindName)

def changeOf (index : Nat) (item : Json) : Except MergeError (Json.Key × Json) :=
  match parts? item with
  | none => .error (.notPair index)
  | some [name, value] => (keyOf name).map (·, value)
  | some parts => .error (.wrongLength index parts.length)

/-- The changes that a stored value asks for: the fields of an object, or a sequence of pairs. -/
def changes : Json → Except MergeError Json.Fields
  | .obj fields => .ok fields
  | value =>
    match parts? value with
    | none => .error (.notFields value.kindName)
    | some items => (items.zipIdx).mapM fun (item, index) => changeOf index item

/-- The lines that show the settings. -/
def lines (settings : Settings) : List String :=
  settings.fields.map fun (key, value) => s!"  {(Json.ofKey key).display}: {value.display}"

end Settings

end TapeMachine
