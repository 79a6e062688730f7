import TapeMachine.Console.CellWidth
import TapeMachine.Text.Blank
import TapeMachine.Text.Lines

namespace TapeMachine.Console

/-- How many cells a line has where nobody says otherwise. -/
def lineWidth : Nat := 80

/-- How many cells stand between the stops of a tab. -/
def tabWidth : Nat := 8

/-- A character of a text that is cut into lines, and its place in the text. -/
structure Letter where
  char : Char
  place : Nat
  deriving DecidableEq, Repr

namespace Letter

def isBlank (letter : Letter) : Bool :=
  Text.isBlank letter.char

def cells (letter : Letter) : Nat :=
  cellsOf letter.char

end Letter

abbrev Line := List Letter

namespace Line

def ofText (text : List Char) : Line :=
  text.zipIdx.map fun (char, place) => { char, place }

def cells (line : Line) : Nat :=
  line.foldr (fun letter cells => letter.cells + cells) 0

def trimRight (line : Line) : Line :=
  (line.reverse.dropWhile Letter.isBlank).reverse

/-- The parts between the line ends of a text. -/
def parts : Line → List Line
  | [] => [[]]
  | letter :: rest =>
    if letter.char = '\n' then [] :: parts rest else Text.consLine letter (parts rest)

/-- A line with blanks up to the next stop in the place of a tab. Before it, `used` cells are
taken. -/
def withoutTabs (used : Nat) : Line → Line
  | [] => []
  | letter :: rest =>
    if letter.char = '\t' then
      let blanks := tabWidth - used % tabWidth
      List.replicate blanks { letter with char := ' ' } ++ withoutTabs (used + blanks) rest
    else letter :: withoutTabs (used + letter.cells) rest

/-- The blanks that lead, and the words after them, each with the blanks after it. -/
def blanksAndWords : Line → Line × List Line
  | [] => ([], [])
  | letter :: rest =>
    match blanksAndWords rest with
    | (blanks, words) =>
      if letter.isBlank then (letter :: blanks, words)
      else if blanks = [] then ([], Text.consLine letter words)
      else ([], (letter :: blanks) :: words)

/-- The words of a line, each with the blanks after it, the first with those before it too. -/
def words (line : Line) : List Line :=
  match blanksAndWords line with
  | (_, []) => []
  | (blanks, word :: words) => (blanks ++ word) :: words

/-- A long word in parts that each fill a line. Before it, `used` cells are taken. -/
def chop (used : Nat) : Line → List Line
  | [] => [[]]
  | letter :: rest =>
    if lineWidth < used + letter.cells then [] :: Text.consLine letter (chop letter.cells rest)
    else Text.consLine letter (chop (used + letter.cells) rest)

/-- Puts the next word on the last of the lines so far, or on a further one if there is no room for
it. A word that no line has room for is chopped. -/
def put (lines : List Line) (last word : Line) : List Line × Line :=
  let size := word.trimRight.cells
  if last.cells + size ≤ lineWidth then (lines, last ++ word)
  else
    let lines := if last = [] then lines else lines ++ [last]
    if size ≤ lineWidth then (lines, word)
    else
      let chopped := chop 0 word
      (lines ++ chopped.dropLast, chopped.getLast?.getD [])

/-- The lines that a text without line ends is cut into. -/
def wrapped (line : Line) : List Line :=
  match line.words with
  | [] => [line]
  | words =>
    let (lines, last) := words.foldl (fun (lines, last) word => put lines last word) ([], [])
    lines ++ [last]

/-- A line without blanks at its end that are more characters than it has cells. -/
def cropped (line : Line) : Line :=
  let blanks := line.length - line.trimRight.length
  line.take (line.length - min blanks (line.length - lineWidth))

/-- The letters that a number of cells has room for, the last of which may be cut. -/
def fill (room : Nat) : Line → Line
  | [] => []
  | letter :: rest => if room = 0 then [] else letter :: fill (room - letter.cells) rest

/-- What is seen of a line. -/
def seen (line : Line) : Line :=
  let line := line.cropped
  if line.cells ≤ lineWidth then line else line.fill lineWidth

end Line

end TapeMachine.Console
