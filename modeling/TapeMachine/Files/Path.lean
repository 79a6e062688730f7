import TapeMachine.Text.Lines
import TapeMachine.Text.Wording

namespace TapeMachine.Files

open Text

/-- The parts of a path as written, empty ones included. -/
def parts (path : String) : List String :=
  (splitOn '/' path.toList).map String.ofList

def join (parts : List String) : String :=
  "/".intercalate parts

def isAbsolute (path : String) : Bool :=
  path.toList.head? == some '/'

/-- The parts that lead somewhere. -/
def properParts (path : String) : List String :=
  (parts path).filter fun part => part ≠ "" ∧ part ≠ "."

/-- A path without empty parts and parts that stay in place; the empty path is the place itself. -/
def normal (path : String) : String :=
  match properParts path with
  | [] => if isAbsolute path then "/" else "."
  | proper => (if isAbsolute path then "/" else "") ++ join proper

/-- One path below another; an absolute one stands for itself. -/
def below (directory name : String) : String :=
  if isAbsolute name then name
  else if directory = "" ∨ directory.toList.getLast? = some '/' then directory ++ name
  else directory ++ "/" ++ name

/-- The same for texts that may be torn. -/
def belowTorn : Wording → Wording → Wording
  | .whole directory, .whole name => .whole (below directory name)
  | directory, name =>
    if name.points.head? = some '/'.toNat then name else directory ++ "/" ++ name

/-- What stands before the last separator, without the separators at its end. -/
def headOf {α : Type} [DecidableEq α] (separator : α) (path : List α) : List α :=
  let head := path.reverse.dropWhile (· ≠ separator)
  match head.dropWhile (· = separator) with
  | [] => head.reverse
  | rest => rest.reverse

def directoryOf : Wording → Wording
  | .whole path => .whole (String.ofList (headOf '/' path.toList))
  | .torn points => .ofPoints (headOf '/'.toNat points)

/-- The directory that a file goes to. -/
def homeOf (path : Wording) : Wording :=
  if directoryOf path = "" then "." else directoryOf path

/-- The path of the directory around a path, without empty parts. -/
def parent (path : String) : String :=
  match (properParts path).dropLast with
  | [] => if isAbsolute path then "/" else "."
  | proper => (if isAbsolute path then "/" else "") ++ join proper

/-- The last proper part without its extension; a dot at either end makes no extension. -/
def stem (path : String) : String :=
  let name := ((properParts path).getLast?.getD "").toList
  let extension := name.reverse.takeWhile (· ≠ '.')
  let base := (name.reverse.drop (extension.length + 1)).reverse
  if extension = [] ∨ base = [] then String.ofList name else String.ofList base

end TapeMachine.Files
