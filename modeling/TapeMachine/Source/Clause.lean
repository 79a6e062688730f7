import TapeMachine.Rule
import TapeMachine.Source.Quotes

namespace TapeMachine.Source

open Text

/-- A clause of a rule's options that has an effect. -/
inductive Clause where
  | write (symbol : List Char)
  | go (move : Move) (target : List Char)
  deriving DecidableEq, Repr

/-- What comes before and after the first colon, if there is one. -/
def atColon (text : List Char) : List Char × Option (List Char) :=
  (text.takeWhile (· ≠ ':'), (text.dropWhile (· ≠ ':')).tail?)

/-- A clause without a value, or under another key, has no effect. -/
def Clause.read? (text : List Char) : Option Clause := do
  let (key, value) := atColon text
  let value := trim (← value)
  guard (value ≠ [])
  if trim key = "write".toList then return write (unquote value)
  match trim key with
  | [letter] => return go (← Move.ofLetter? letter) (firstWord value)
  | _ => none

def Clause.written? : Clause → Option (List Char)
  | write symbol => some symbol
  | go .. => none

def Clause.step? : Clause → Option (Move × List Char)
  | write _ => none
  | go move target => some (move, target)

structure Options where
  write : Option (List Char)
  step : Option (Move × List Char)
  deriving DecidableEq, Repr

/-- The text inside the braces; either brace may be missing. -/
def optionBody (text : List Char) : List Char :=
  let body := match trim text with
    | '{' :: rest => rest
    | rest => rest
  match find? '}' none body with
  | some i => body.take i
  | none => body

/-- The first clause that writes and the first that moves count. -/
def Options.read (text : List Char) : Options :=
  let clauses := (split ',' (optionBody text)).filterMap Clause.read?
  ⟨clauses.findSome? Clause.written?, clauses.findSome? Clause.step?⟩

end TapeMachine.Source
