import TapeMachine.Source.Line
import TapeMachine.Table
import TapeMachine.Text.Lines

namespace TapeMachine

open Text Source

structure Warning where
  line : Nat
  text : String
  reason : Reason
  deriving DecidableEq, Repr

def Warning.message (warning : Warning) : String :=
  s!"line {warning.line}: {warning.reason.message}: " ++
    String.ofList (quoted warning.text.toList)

/-- A table as its source describes it, with what was skipped or overridden on the way. -/
structure Program where
  table : Table
  warnings : List Warning := []
  deriving DecidableEq, Repr

namespace Source

/-- One symbol of an accepted rule line. An empty symbol stands for the blank, which may be
declared further down. -/
structure Accepted where
  line : Nat
  text : String
  state : String
  symbol : String
  write : Option String
  move : Move
  target : String
  deriving DecidableEq, Repr

/-- What the lines read so far have said. -/
structure Draft where
  initialState : String := "right"
  blank : Char := '_'
  input : List Char := []
  current : Option String := none
  accepted : Array Accepted := #[]
  warnings : Array Warning := #[]

namespace Draft

def warn (draft : Draft) (number : Nat) (text : List Char) (reason : Reason) : Draft :=
  { draft with warnings := draft.warnings.push ⟨number, String.ofList text, reason⟩ }

def accept (draft : Draft) (number : Nat) (text : List Char) (state : String)
    (rule : RuleLine) : Draft :=
  { draft with
    accepted := draft.accepted ++ rule.symbols.map fun symbol =>
      { line := number
        text := String.ofList text
        state
        symbol := String.ofList symbol
        write := rule.write.map String.ofList
        move := rule.move
        target := String.ofList rule.target : Accepted } }

/-- The effect of a line that is not empty. -/
def add (draft : Draft) (number : Nat) (text : List Char) : Draft :=
  match Line.read text with
  | .input value => { draft with input := value }
  | .blank symbol => { draft with blank := symbol }
  | .start state => { draft with initialState := String.ofList state }
  | .table => draft
  | .header state => { draft with current := some (String.ofList state) }
  | .faulty reason => draft.warn number text reason
  | .rule body =>
    match draft.current, body with
    | none, _ => draft.warn number text .ruleOutsideState
    | some _, .error reason => draft.warn number text reason
    | some state, .ok rule => draft.accept number text state rule

/-- A line without its comment and outer blanks. -/
def content (line : List Char) : List Char :=
  trim (withoutComment line)

def addLine (draft : Draft) (numbered : List Char × Nat) : Draft :=
  match content numbered.1 with
  | [] => draft
  | text => draft.add numbered.2 text

def ofLines (lines : List (List Char)) : Draft :=
  (lines.zipIdx 1).foldl addLine {}

end Draft

/-- The rule an accepted symbol stands for, once the blank is known. -/
def Accepted.rule (blank : String) (accepted : Accepted) : Rule :=
  let symbol := if accepted.symbol = "" then blank else accepted.symbol
  let write := match accepted.write with
    | none => symbol
    | some "" => blank
    | some written => written
  ⟨accepted.state, .one symbol, some write, accepted.move, accepted.target⟩

def sameKey (a b : Rule) : Bool :=
  a.source == b.source && a.read == b.read

/-- A rule with a new key goes to the end, any other takes the place of the rule it overrides. -/
def put (rules : List Rule) (rule : Rule) : List Rule :=
  if rules.any (sameKey rule) then rules.map fun old => if sameKey rule old then rule else old
  else rules ++ [rule]

def Accepted.override (blank : String) (accepted : Accepted) : Warning :=
  ⟨accepted.line, accepted.text,
    .duplicate accepted.state (if accepted.symbol = "" then blank else accepted.symbol)⟩

/-- The rules and the overrides that accepted symbols amount to, in order. -/
def collect (blank : String) (accepted : List Accepted) : List Rule × List Warning :=
  accepted.foldl
    (fun (rules, warnings) next =>
      (put rules (next.rule blank),
        if rules.any (sameKey (next.rule blank)) then warnings ++ [next.override blank]
        else warnings))
    ([], [])

def Draft.program (draft : Draft) : Program :=
  let blank := draft.blank.toString
  let (rules, overrides) := collect blank draft.accepted.toList
  { table :=
      { rules
        initialState := draft.initialState
        blank
        initialTape := match draft.input with
          | [] => ["1", "0", "1", "1"]
          | symbols => symbols.map Char.toString }
    warnings :=
      (draft.warnings.toList ++ overrides).mergeSort fun a b => decide (a.line ≤ b.line) }

end Source

def Program.ofLines (lines : List (List Char)) : Program :=
  (Draft.ofLines lines).program

/-- Reads a program. No text is refused: lines that say nothing known are skipped and reported. -/
def Program.ofText (text : String) : Program :=
  ofLines (lines text.toList)

end TapeMachine
