import Mathlib.Tactic.FinCases
import TapeMachine.Settings.Basic

namespace TapeMachine.Settings

open Text (Wording)

variable {α β : Type} {fields : Json.Fields} {key : String} {kind : Kind} {error : Error}

/-- A truth value is no integer, nor is a floating number. -/
def Kind.covers : Kind → Json → Bool
  | integer, .int _ | truth, .bool _ | text, .str _ | text, .torn _ => true
  | _, _ => false

/-- The known fields in order, each with its kind. -/
def kinds : List (String × Kind) :=
  [("speed", .integer), ("max_steps", .integer), ("tape_window", .integer), ("log_steps", .truth),
    ("output_directory", .text), ("log_file_prefix", .text), ("default_program", .text),
    ("graph_start_state", .text), ("faq_counter_file", .text)]

def integerAt (fields : Json.Fields) (key : String) : Int :=
  match fields.get? key with
  | some (.int n) => n
  | _ => 0

def truthAt (fields : Json.Fields) (key : String) : Bool :=
  match fields.get? key with
  | some (.bool b) => b
  | _ => false

def textAt (fields : Json.Fields) (key : String) : Wording :=
  match fields.get? key with
  | some (.str s) => s
  | some (.torn points) => .torn points
  | _ => ""

/-- What is stored under a name, as a value of a kind. -/
def valueAt (fields : Json.Fields) (key : String) : Kind → Json
  | .integer => .int (integerAt fields key)
  | .truth => .bool (truthAt fields key)
  | .text => .ofWording (textAt fields key)

/-- The settings that stored fields amount to if nothing is wrong with them. -/
def readOf (fields : Json.Fields) : Settings where
  speed := integerAt fields "speed"
  maxSteps := integerAt fields "max_steps"
  tapeWindow := integerAt fields "tape_window"
  logSteps := truthAt fields "log_steps"
  outputDirectory := textAt fields "output_directory"
  logFilePrefix := textAt fields "log_file_prefix"
  defaultProgram := textAt fields "default_program"
  graphStartState := textAt fields "graph_start_state"
  countsFile := textAt fields "faq_counter_file"
  others := fields.filter fun field => !isKnown field.1

/-- What a single field is refused for. -/
def kindError? (fields : Json.Fields) (key : String) (kind : Kind) : Option Error :=
  match fields.get? key with
  | none => some (.missing key)
  | some value => if kind.covers value then none else some (.wrongKind key kind value.kindName)

/-- The numbers that a field may hold. -/
structure Bound where
  key : String
  allows : Int → Bool
  error : Error

def bounds : List Bound :=
  [⟨"speed", fun n => 1 ≤ n && n ≤ 100, .speedOutOfRange⟩, ⟨"max_steps", fun n => 0 < n, .noSteps⟩,
    ⟨"tape_window", fun n => 0 < n, .noWindow⟩]

def Bound.error? (bound : Bound) (fields : Json.Fields) : Option Error :=
  if bound.allows (integerAt fields bound.key) then none else some bound.error

/-- What stored fields are refused for: the kinds of all come before any bound. -/
def complaint? (fields : Json.Fields) : Option Error :=
  (kinds.findSome? fun entry => kindError? fields entry.1 entry.2).or
    (bounds.findSome? fun bound => bound.error? fields)

/-- A value unless something is wrong. -/
def checked (error? : Option Error) (value : α) : Except Error α :=
  match error? with
  | some error => .error error
  | none => .ok value

theorem checked_bind (error? : Option Error) (value : α) (next : α → Except Error β) :
    (checked error? value >>= next) = error?.elim (next value) .error := by
  cases error? <;> rfl

theorem checked_findSome?_cons {γ : Type} (check : γ → Option Error) (first : γ) (rest : List γ)
    (last : Option Error) (value : α) :
    checked (((first :: rest).findSome? check).or last) value =
      (check first).elim (checked ((rest.findSome? check).or last) value) .error := by
  rw [List.findSome?_cons]
  cases check first <;> rfl

theorem integerField_eq (fields : Json.Fields) (key : String) :
    integerField fields key = checked (kindError? fields key .integer) (integerAt fields key) := by
  unfold integerField kindError? integerAt
  cases fields.get? key with
  | none => rfl
  | some value => cases value <;> rfl

theorem truthField_eq (fields : Json.Fields) (key : String) :
    truthField fields key = checked (kindError? fields key .truth) (truthAt fields key) := by
  unfold truthField kindError? truthAt
  cases fields.get? key with
  | none => rfl
  | some value => cases value <;> rfl

theorem textField_eq (fields : Json.Fields) (key : String) :
    textField fields key = checked (kindError? fields key .text) (textAt fields key) := by
  unfold textField kindError? textAt
  cases fields.get? key with
  | none => rfl
  | some value => cases value <;> rfl

theorem rangeError?_readOf (fields : Json.Fields) :
    (readOf fields).rangeError? = bounds.findSome? fun bound => bound.error? fields := by
  simp only [rangeError?, readOf, bounds, List.findSome?_cons, List.findSome?_nil, Bound.error?]
  grind

/-- Stored fields are settings unless there is a complaint about them. -/
theorem ofFields_eq (fields : Json.Fields) :
    ofFields fields = checked (complaint? fields) (readOf fields) := by
  unfold ofFields complaint? kinds
  simp only [integerField_eq, truthField_eq, textField_eq, checked_bind, checked_findSome?_cons]
  rw [← rangeError?_readOf]
  rfl

/-- A field is there, and its value is of a kind. -/
def HasKind (fields : Json.Fields) (entry : String × Kind) : Prop :=
  ∃ value, fields.get? entry.1 = some value ∧ entry.2.covers value = true

/-- Every known field is there and of its kind. -/
def Typed (fields : Json.Fields) : Prop :=
  ∀ entry ∈ kinds, HasKind fields entry

/-- A field holds a number that is allowed. -/
def Bound.Holds (bound : Bound) (fields : Json.Fields) : Prop :=
  ∃ n, fields.get? bound.key = some (.int n) ∧ bound.allows n = true

/-- The first thing that is wrong with stored fields. No bound counts before all kinds are right. -/
inductive Complaint (fields : Json.Fields) : Error → Prop
  | missing {before after : List (String × Kind)} {key : String} {kind : Kind}
      (split : kinds = before ++ (key, kind) :: after)
      (sound : ∀ entry ∈ before, HasKind fields entry) (absent : fields.get? key = none) : Complaint fields (.missing key)
  | wrongKind {before after : List (String × Kind)} {key : String} {kind : Kind} {value : Json}
      (split : kinds = before ++ (key, kind) :: after)
      (sound : ∀ entry ∈ before, HasKind fields entry) (found : fields.get? key = some value)
      (wrong : kind.covers value = false) :
      Complaint fields (.wrongKind key kind value.kindName)
  | outOfRange {before after : List Bound} {bound : Bound} (typed : Typed fields)
      (split : bounds = before ++ bound :: after) (sound : ∀ other ∈ before, other.Holds fields)
      (wrong : ¬bound.Holds fields) : Complaint fields bound.error

theorem HasKind.get?_eq (h : HasKind fields (key, kind)) :
    fields.get? key = some (valueAt fields key kind) := by
  obtain ⟨value, hv, hk⟩ := h
  cases kind <;> cases value <;>
    simp_all [Kind.covers, valueAt, integerAt, truthAt, textAt, Json.ofWording]

end TapeMachine.Settings
