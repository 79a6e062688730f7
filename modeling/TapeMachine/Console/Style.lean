import TapeMachine.Console.Color

namespace TapeMachine.Console

open Text

/-- What text may look like, in the order in which a style names it. -/
inductive Look where
  | bold
  | dim
  | italic
  | underline
  | blink
  | blink2
  | reverse
  | conceal
  | strike
  | underline2
  | frame
  | encircle
  | overline
  deriving DecidableEq, Repr

namespace Look

def all : List Look :=
  [bold, dim, italic, underline, blink, blink2, reverse, conceal, strike, underline2, frame,
    encircle, overline]

def name : Look → String
  | bold => "bold"
  | dim => "dim"
  | italic => "italic"
  | underline => "underline"
  | blink => "blink"
  | blink2 => "blink2"
  | reverse => "reverse"
  | conceal => "conceal"
  | strike => "strike"
  | underline2 => "underline2"
  | frame => "frame"
  | encircle => "encircle"
  | overline => "overline"

/-- The short names of some looks. -/
def shortNames : List (String × Look) :=
  [("d", dim), ("b", bold), ("i", italic), ("u", underline), ("r", reverse), ("c", conceal),
    ("s", strike), ("uu", underline2), ("o", overline)]

def ofWord? (word : List Char) : Option Look :=
  (all.find? fun look => look.name.toList = word) <|>
    (shortNames.find? fun short => short.1.toList = word).map Prod.snd

end Look

/-- A style: the looks that it turns on or off, two colors and a link. -/
structure Style where
  looks : List (Look × Bool) := []
  color : Option (List Char) := none
  background : Option (List Char) := none
  link : Option (List Char) := none
  deriving DecidableEq, Repr

namespace Style

def turn (style : Style) (look : Look) (on : Bool) : Style :=
  { style with looks := (look, on) :: style.looks }

/-- Takes further words into a style. -/
def extend (style : Style) : List (List Char) → Except StyleProblem Style
  | [] => .ok style
  | word :: words =>
    match String.ofList (lowered word), words with
    | "on", color :: words => do
      extend { style with background := some (← readColor color) } words
    | "link", address :: words => extend { style with link := some address } words
    | "not", look :: words =>
      match Look.ofWord? look with
      | some look => (style.turn look false).extend words
      | none => .error .unknown
    | "on", [] | "link", [] | "not", [] => .error .unknown
    | _, words =>
      match Look.ofWord? (lowered word) with
      | some look => (style.turn look true).extend words
      | none => do extend { style with color := some (← readColor word) } words

/-- The words of a text. -/
def wordsOf (text : List Char) : List (List Char) :=
  match text with
  | [] => []
  | c :: rest =>
    if isBlank c then wordsOf rest
    else
      have : (rest.dropWhile fun c => !isBlank c).length ≤ rest.length :=
        (List.dropWhile_sublist _).length_le
      (c :: rest.takeWhile fun c => !isBlank c) :: wordsOf (rest.dropWhile fun c => !isBlank c)
termination_by text.length

def lookText (style : Style) (look : Look) : Option (List Char) :=
  (style.looks.lookup look).map fun on =>
    (if on then look.name else "not " ++ look.name).toList

/-- The words of a style in a fixed order. -/
def words (style : Style) : List (List Char) :=
  Look.all.filterMap style.lookText ++ style.color.toList ++
    (style.background.toList.flatMap fun color => ["on".toList, color]) ++
    (style.link.toList.flatMap fun address => ["link".toList, address])

/-- The normal form of a style; one that does nothing is called so. -/
def text (style : Style) : List Char :=
  match style.words with
  | [] => "none".toList
  | words => [' '].intercalate words

def read (text : List Char) : Except StyleProblem Style :=
  if trim text = "none".toList then .ok {} else extend {} (wordsOf text)

/-- The normal form of a text that describes a style; any other is only trimmed and put in small
letters. -/
def normalText (text : List Char) : Except StyleProblem (List Char) :=
  match read text with
  | .ok style => .ok style.text
  | .error .unknown => .ok (lowered (trim text))
  | .error problem => .error problem

end Style

end TapeMachine.Console
