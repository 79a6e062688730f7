import TapeMachine.Text.Blank
import TapeMachine.Text.Numeral
import TapeMachine.Text.Wording

namespace TapeMachine.Console

open Text

/-- The answer in a line: the default for an empty one, else what the line says without its outer
blanks, if that is an answer at all. -/
def answer? {α : Type} (default : Option α) (read : String → Option α) (line : String) :
    Option α :=
  if line = "" ∧ default.isSome then default
  else read (String.ofList (trim line.toList))

def textAnswer (default : Option String) (line : String) : String :=
  (answer? default some line).getD ""

/-- The same for a default that may be torn. -/
def wordingAnswer (default : Wording) (line : String) : Wording :=
  (answer? (some default) (fun text => some (.whole text)) line).getD default

def choiceAnswer? (choices : List String) (default : String) (line : String) : Option String :=
  answer? (some default) (fun text => if text ∈ choices then some text else none) line

def integerAnswer? (default : Option Int) (line : String) : Option Int :=
  answer? default integer? line

def yesNo? (text : String) : Option Bool :=
  match text with
  | "y" | "Y" => some true
  | "n" | "N" => some false
  | _ => none

def yesNoAnswer? (default : Bool) (line : String) : Option Bool :=
  answer? (some default) yesNo? line

end TapeMachine.Console
