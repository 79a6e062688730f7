import TapeMachine.Source.Clause
import TapeMachine.Text.Quoted
import TapeMachine.Text.Word

namespace TapeMachine.Source

open Text

/-- Why a line, or one symbol of it, is reported. -/
inductive Reason where
  | expectedQuoted (directive : String)
  | blankNotOneCharacter
  | missingStartState
  | emptyStateName
  | ruleOutsideState
  | unterminatedList
  | unterminatedQuote
  | expectedColon
  | noMove
  | unrecognized
  | duplicate (state symbol : String)
  deriving DecidableEq, Repr

def Reason.message : Reason → String
  | expectedQuoted directive => s!"expected a quoted value after '{directive}'"
  | blankNotOneCharacter => "blank symbol must be a single character"
  | missingStartState => "missing start state name"
  | emptyStateName => "empty state name"
  | ruleOutsideState => "rule outside of a state block"
  | unterminatedList => "unterminated symbol list"
  | unterminatedQuote => "unterminated quoted symbol"
  | expectedColon => "expected ':' after symbol"
  | noMove => "no L/R/N move clause"
  | unrecognized => "unrecognized line"
  | duplicate state symbol =>
    s!"duplicate rule for state '{state}' and symbol '{symbol}' overrides earlier rule"

/-- A rule line: each symbol stands for a rule of its own. -/
structure RuleLine where
  symbols : List (List Char)
  write : Option (List Char)
  move : Move
  target : List Char
  deriving DecidableEq, Repr

/-- What a line says, its comment and outer blanks removed. -/
inductive Line where
  | input (value : List Char)
  | blank (symbol : Char)
  | start (state : List Char)
  | table
  | header (state : List Char)
  | rule (body : Except Reason RuleLine)
  | faulty (reason : Reason)

/-- The rest of a text that begins with `lead`. -/
def after? (lead : String) (text : List Char) : Option (List Char) :=
  if lead.toList.isPrefixOf text then some (text.drop lead.toList.length) else none

/-- The characters between a quote at the front and the next quote of either kind. -/
def quotedValue? (text : List Char) : Option (List Char) :=
  match trim text with
  | [] => none
  | c :: rest =>
    if isQuote c ∧ rest.any isQuote then some (rest.takeWhile fun d => !isQuote d) else none

def startName? (text : List Char) : Option (List Char) :=
  match (trimLeft text).takeWhile isWord with
  | [] => none
  | name => some name

/-- The options that follow the symbols of a rule line and a colon. -/
def afterSymbols (symbols : List (List Char)) (rest : List Char) :
    Except Reason (List (List Char) × List Char) :=
  match trimLeft rest with
  | ':' :: options => .ok (symbols, options)
  | _ => .error .expectedColon

/-- The symbols of a rule line, as a list in brackets, in quotes or bare, and its options. -/
def splitSymbols (line : List Char) : Except Reason (List (List Char) × List Char) :=
  match line with
  | [] => .ok ([[]], [])
  | c :: rest =>
    if c = '[' then
      match find? ']' none rest with
      | none => .error .unterminatedList
      | some i => afterSymbols ((split ',' (rest.take i)).map unquote) (rest.drop (i + 1))
    else if isQuote c then
      if c ∈ rest then
        afterSymbols [rest.takeWhile (· ≠ c)] (rest.dropWhile (· ≠ c)).tail
      else .error .unterminatedQuote
    else
      let (symbol, options) := atColon line
      .ok ([trim symbol], options.getD [])

def RuleLine.read (line : List Char) : Except Reason RuleLine := do
  let (symbols, text) ← splitSymbols line
  let options := Options.read text
  match options.step with
  | none => .error .noMove
  | some (move, target) => .ok ⟨symbols, options.write, move, target⟩

def Line.readInput (text : List Char) : Line :=
  match quotedValue? text with
  | some value => input value
  | none => faulty (.expectedQuoted "input:")

def Line.readBlank (text : List Char) : Line :=
  match quotedValue? text with
  | some [symbol] => blank symbol
  | some _ => faulty .blankNotOneCharacter
  | none => faulty (.expectedQuoted "blank:")

def Line.readStart (text : List Char) : Line :=
  match startName? text with
  | some name => start name
  | none => faulty .missingStartState

/-- Neither a directive nor the mark of the table. -/
def Line.readOther (line : List Char) : Line :=
  if line.getLast? = some ':' ∧ '{' ∉ line then
    match trim line.dropLast with
    | [] => faulty .emptyStateName
    | name => header name
  else if '{' ∈ line ∨ '[' ∈ line then rule (RuleLine.read line)
  else faulty .unrecognized

def Line.read (line : List Char) : Line :=
  match after? "input:" line, after? "blank:" line, after? "start state:" line with
  | some text, _, _ => readInput text
  | none, some text, _ => readBlank text
  | none, none, some text => readStart text
  | none, none, none => if line = "table:".toList then table else readOther line

end TapeMachine.Source
