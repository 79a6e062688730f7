import TapeMachine.Decimal.Text
import TapeMachine.Json.Basic
import TapeMachine.Text.Quoted

namespace TapeMachine.Json

open Text

/-- A torn text in quotes; half a pair is escaped. -/
def shownTorn (points : List Nat) : List Char :=
  let quote := quoteFor (charsOf points)
  let shownPoint (point : Nat) :=
    if isHalf point then '\\' :: 'u' :: hex 4 point else escaped quote (Char.ofNat point)
  quote :: points.flatMap shownPoint ++ [quote]

/-- A single value as it stands inside a message, a text in quotes. -/
def shownKey : Key → String
  | .text s => String.ofList (quoted s.toList)
  | .torn points => String.ofList (shownTorn points)
  | .null => "None"
  | .bool true => "True"
  | .bool false => "False"
  | .int n => toString n
  | .float x => Decimal.shortestText x

mutual

/-- The value as it stands inside a message. -/
def shown : Json → String
  | null => shownKey .null
  | bool b => shownKey (.bool b)
  | int n => shownKey (.int n)
  | float x => shownKey (.float x)
  | str s => shownKey (.text s)
  | torn points => shownKey (.torn points)
  | arr items => "[" ++ ", ".intercalate (shownItems items) ++ "]"
  | obj fields => "\x7b" ++ ", ".intercalate (shownFields fields) ++ "\x7d"

def shownItems : List Json → List String
  | [] => []
  | item :: items => shown item :: shownItems items

def shownFields : List (Key × Json) → List String
  | [] => []
  | (key, value) :: fields => (shownKey key ++ ": " ++ shown value) :: shownFields fields

end

/-- The value as a message of its own: a text stands without quotes. -/
def display : Json → String
  | str s => s
  | torn points => String.ofList (charsOf points)
  | value => shown value

/-- The kind of a value as messages name it. -/
def kindName : Json → String
  | null => "NoneType"
  | bool _ => "bool"
  | int _ => "int"
  | float _ => "float"
  | str _ | torn _ => "str"
  | arr _ => "list"
  | obj _ => "dict"

end TapeMachine.Json
