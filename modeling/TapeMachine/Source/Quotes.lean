import TapeMachine.Text.Blank

namespace TapeMachine.Source

open Text

def isQuote (c : Char) : Bool :=
  c == '\'' || c == '"'

/-- The open quote after one more character: a quote opens where none is open, and closes at the
next of its kind. -/
def afterChar (opened : Option Char) (c : Char) : Option Char :=
  match opened with
  | some quote => if c = quote then none else some quote
  | none => if isQuote c then some c else none

/-- Drops a comment, which opens with `#` outside quotes at the start or after a blank. -/
def stripComment (opened : Option Char) (afterBlank : Bool) : List Char → List Char
  | [] => []
  | c :: rest =>
    if opened = none ∧ c = '#' ∧ afterBlank then []
    else c :: stripComment (afterChar opened c) (isBlank c) rest

def withoutComment (line : List Char) : List Char :=
  stripComment none true line

/-- The index of the first `target` outside quotes. -/
def find? (target : Char) (opened : Option Char) : List Char → Option Nat
  | [] => none
  | c :: rest =>
    if opened = none ∧ isQuote c = false ∧ c = target then some 0
    else (find? target (afterChar opened c) rest).map (· + 1)

theorem find?_lt {target : Char} {opened : Option Char} {text : List Char} {i : Nat}
    (h : find? target opened text = some i) : i < text.length := by
  induction text generalizing opened i with
  | nil => simp [find?] at h
  | cons c rest ih =>
    unfold find? at h
    split at h
    next => cases h; simp
    next =>
      obtain ⟨j, hj, rfl⟩ := Option.map_eq_some_iff.mp h
      exact Nat.succ_lt_succ (ih hj)

/-- The characters of a text from a position on. Below zero a position counts from the end, and the
whole text follows after it. There are none for a position before the text. -/
def charsFrom? (text : List Char) (start : Int) : Option (List Char) :=
  if 0 ≤ start then some (text.drop start.toNat)
  else if text.length + start < 0 then none
  else some (text.drop (text.length + start).toNat ++ text)

/-- The position of the first `target` outside quotes from a position on, if it is found. Only a
single character ever is. -/
def findFrom? (target text : List Char) (start : Int) : Option (Option Int) :=
  (charsFrom? text start).map fun chars =>
    match target with
    | [c] => (find? c none chars).map (start + ·)
    | _ => none

/-- The parts between separators outside quotes; every part is scanned afresh. -/
def split (separator : Char) (text : List Char) : List (List Char) :=
  match h : find? separator none text with
  | none => [text]
  | some i => text.take i :: split separator (text.drop (i + 1))
termination_by text.length
decreasing_by
  have := find?_lt h
  simp only [List.length_drop]
  omega

/-- A token without the blanks around it and without a pair of equal quotes around the rest. -/
def unquote (token : List Char) : List Char :=
  match trim token with
  | [] => []
  | c :: rest => if isQuote c ∧ rest.getLast? = some c then rest.dropLast else c :: rest

end TapeMachine.Source
