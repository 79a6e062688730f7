import TapeMachine.Dictionary
import TapeMachine.Source.Program

namespace TapeMachine

open Text

namespace Source

/-- The characters that a bare symbol may not contain. -/
def isSpecial (c : Char) : Bool :=
  "[]\x7b\x7d:,#'\"".toList.contains c

def writeSymbol (symbol : List Char) : List Char :=
  if symbol ≠ [] ∧ ¬symbol.any isSpecial ∧ ¬isBlankText symbol then symbol
  else
    let quote := if '\'' ∈ symbol then '"' else '\''
    quote :: symbol ++ [quote]

def writeValue (value : List Char) : List Char :=
  let quote := if '"' ∈ value then '\'' else '"'
  quote :: value ++ [quote]

def quoteSymbol (symbol : String) : String :=
  String.ofList (writeSymbol symbol.toList)

def quoteValue (value : String) : String :=
  String.ofList (writeValue value.toList)

def writePattern : Pattern → String
  | .one symbol => quoteSymbol symbol
  | pattern => "[" ++ ", ".intercalate (pattern.members.map quoteSymbol) ++ "]"

/-- The write clause, which is left out where the rule keeps the one symbol it reads. -/
def writeClauses (rule : Rule) : List String :=
  match rule.write with
  | none => []
  | some symbol => if rule.read = .one symbol then [] else ["write: " ++ quoteSymbol symbol]

def writeRule (rule : Rule) : String :=
  let clauses := writeClauses rule ++ [rule.move.letter.toString ++ ": " ++ rule.target]
  writePattern rule.read ++ ": \x7b" ++ ", ".intercalate clauses ++ "\x7d"

/-- The rules of each state, the states in the order of their first rules. -/
def blocks (rules : List Rule) : List (String × List Rule) :=
  Dictionary.grouped Rule.source rules

def writeBlock (block : String × List Rule) : List String :=
  ("  " ++ block.1 ++ ":") :: block.2.map fun rule => "    " ++ writeRule rule

end Source

open Source in
def Table.sourceLines (table : Table) : List String :=
  ["input: " ++ quoteValue (String.join table.initialTape),
    "blank: " ++ quoteValue table.blank,
    "start state: " ++ table.initialState,
    "table:"] ++ (blocks table.rules).flatMap writeBlock

/-- A text that describes the table. Only a start state made of word characters is read back
whole. -/
def Table.source (table : Table) : String :=
  "\n".intercalate table.sourceLines ++ "\n"

end TapeMachine
