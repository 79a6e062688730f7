import TapeMachine.Decimal.Text
import TapeMachine.Json.Basic
import TapeMachine.Text.Numeral
import TapeMachine.Text.Quoted

namespace TapeMachine.Json

open Text

/-- The escape of one unit of sixteen bits. -/
def unitEscape (unit : Nat) : List Char :=
  '\\' :: 'u' :: hex 4 unit

/-- Every character outside visible ASCII is escaped, one above the first plane as two units. -/
def escape (c : Char) : List Char :=
  if c = '"' ∨ c = '\\' then ['\\', c]
  else if c = '\n' then ['\\', 'n']
  else if c = '\r' then ['\\', 'r']
  else if c = '\t' then ['\\', 't']
  else if c = '\x08' then ['\\', 'b']
  else if c = '\x0c' then ['\\', 'f']
  else if 32 ≤ c.toNat ∧ c.toNat ≤ 126 then [c]
  else if c.toNat < 0x10000 then unitEscape c.toNat
  else
    let (high, low) := halvesOf c.toNat
    unitEscape high ++ unitEscape low

def stringText (s : String) : String :=
  String.ofList ('"' :: s.toList.flatMap escape ++ ['"'])

/-- A torn text; half a pair is one unit. -/
def tornText (points : List Nat) : String :=
  let pointText (point : Nat) :=
    if isHalf point then unitEscape point else escape (Char.ofNat point)
  String.ofList ('"' :: points.flatMap pointText ++ ['"'])

def floatText (x : Float) : String :=
  match Decimal.shortestText x with
  | "nan" => "NaN"
  | "inf" => "Infinity"
  | "-inf" => "-Infinity"
  | text => text

/-- A key is written as a text, whatever its value. -/
def keyText : Key → String
  | .text s => stringText s
  | .torn points => tornText points
  | .null => stringText "null"
  | .bool true => stringText "true"
  | .bool false => stringText "false"
  | .int n => stringText (toString n)
  | .float x => stringText (floatText x)

mutual

/-- The value on one line. -/
def compact : Json → String
  | null => "null"
  | bool true => "true"
  | bool false => "false"
  | int n => toString n
  | float x => floatText x
  | str s => stringText s
  | torn points => tornText points
  | arr items => "[" ++ ", ".intercalate (compactItems items) ++ "]"
  | obj fields => "\x7b" ++ ", ".intercalate (compactFields fields) ++ "\x7d"

def compactItems : List Json → List String
  | [] => []
  | item :: items => compact item :: compactItems items

def compactFields : List (Key × Json) → List String
  | [] => []
  | (key, value) :: fields => (keyText key ++ ": " ++ compact value) :: compactFields fields

end

def newLine (depth : Nat) : String :=
  String.ofList ('\n' :: List.replicate (4 * depth) ' ')

/-- Entries on lines of their own, one level deeper than what encloses them. -/
def block (opening closing : String) (depth : Nat) : List String → String
  | [] => opening ++ closing
  | entries =>
    opening ++ newLine (depth + 1) ++ ("," ++ newLine (depth + 1)).intercalate entries ++
      newLine depth ++ closing

mutual

/-- The value over several lines, four blanks a level. -/
def indentedAt (depth : Nat) : Json → String
  | null => "null"
  | bool true => "true"
  | bool false => "false"
  | int n => toString n
  | float x => floatText x
  | str s => stringText s
  | torn points => tornText points
  | arr items => block "[" "]" depth (indentedItems (depth + 1) items)
  | obj fields => block "\x7b" "\x7d" depth (indentedFields (depth + 1) fields)

def indentedItems (depth : Nat) : List Json → List String
  | [] => []
  | item :: items => indentedAt depth item :: indentedItems depth items

def indentedFields (depth : Nat) : List (Key × Json) → List String
  | [] => []
  | (key, value) :: fields =>
    (keyText key ++ ": " ++ indentedAt depth value) :: indentedFields depth fields

end

def indented (value : Json) : String :=
  indentedAt 0 value

/-- Whether a value is a whole number with more digits than are ever written. -/
def isTooLong : Json → Bool
  | int n => Nat.pow 10 maxDigits ≤ n.natAbs
  | _ => false

mutual

/-- What is written of `lead` and a value after it if a number with too many digits is in the way;
none if all of it is written. The mark and the blanks before an item are written together with it. -/
def cutAt? (depth : Nat) (lead : String) : Json → Option String
  | null => none
  | bool _ => none
  | int n => if isTooLong (int n) then some "" else none
  | float _ => none
  | str _ => none
  | torn _ => none
  | arr items => (cutItems? (depth + 1) ("[" ++ newLine (depth + 1)) items).map (lead ++ ·)
  | obj fields =>
    (cutFields? (depth + 1) "" fields).map (lead ++ "\x7b" ++ newLine (depth + 1) ++ ·)

def cutItems? (depth : Nat) (lead : String) : List Json → Option String
  | [] => none
  | item :: items =>
    (cutAt? depth lead item).or
      ((cutItems? depth ("," ++ newLine depth) items).map (lead ++ indentedAt depth item ++ ·))

def cutFields? (depth : Nat) (lead : String) : List (Key × Json) → Option String
  | [] => none
  | (key, value) :: fields =>
    if (ofKey key).isTooLong then some ""
    else
      let start := lead ++ keyText key ++ ": "
      ((cutAt? depth "" value).map (start ++ ·)).or
        ((cutFields? depth ("," ++ newLine depth) fields).map (start ++ indentedAt depth value ++ ·))

end

/-- What is written of a value over several lines, up to a number with too many digits; none if it
has no such number. -/
def cut? (value : Json) : Option String :=
  cutAt? 0 "" value

end TapeMachine.Json
