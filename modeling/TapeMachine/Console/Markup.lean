import TapeMachine.Console.Emoji
import TapeMachine.Console.Literal
import TapeMachine.Console.Style
import TapeMachine.Text.Word

namespace TapeMachine.Console

open Text

/-- The control characters that are never shown. -/
def isHidden (c : Char) : Bool :=
  c == '\x07' || c == '\x08' || c == '\x0b' || c == '\x0c' || c == '\r'

def withoutHidden (text : List Char) : List Char :=
  text.filter fun c => !isHidden c

def visible (text : String) : String :=
  String.ofList (withoutHidden text.toList)

/-- A mark in brackets: a name and, after an equals sign, its parameters. -/
structure Mark where
  name : List Char
  parameters : List Char := []
  deriving DecidableEq, Repr

/-- Why a text cannot be shown: a mark closes none, the parameters of a mark do not name what it
does, or a style is no style. -/
inductive MarkupError where
  | unopened (name : String)
  | handler (parameters : String)
  | style (problem : StyleProblem)
  deriving DecidableEq, Repr

def MarkupError.message : MarkupError → String
  | .unopened name => s!"closing tag '[{name}]' doesn't match any open tag"
  | .handler parameters => s!"error parsing '{parameters}'"
  | .style .unknown => "unknown style"
  | .style .missingNumber => "a part of a color is missing"

/-- A text with marks, cut into what is shown and the marks. -/
inductive Piece where
  | shown (text : List Char)
  | mark (mark : Mark)
  deriving DecidableEq, Repr

namespace Mark

/-- Reads a mark from what stands in its brackets. -/
def ofText (inner : List Char) : Mark :=
  let name := inner.takeWhile (· ≠ '=')
  { name, parameters := inner.drop (name.length + 1) }

/-- The mark under the normal form of its name. -/
def normal (mark : Mark) : Except MarkupError Mark := do
  let name ← (Style.normalText mark.name).mapError .style
  return { mark with name }

/-- Whether parameters name what a mark does: a name, with arguments in parentheses or without. -/
def isHandler (parameters : List Char) : Bool :=
  let parameters := trim parameters
  let arguments := parameters.dropWhile fun c => isWord c || c == '.'
  if arguments = [] then true
  else if arguments.head? = some '(' ∧ arguments.getLast? = some ')' ∧ '\n' ∉ arguments then
    Literal.isLiteral arguments
  else Literal.isLiteral parameters

/-- A mark that does something is looked at once it is closed. -/
def check (mark : Mark) : Except MarkupError Unit :=
  if mark.name.head? = some '@' ∧ mark.parameters ≠ [] ∧ isHandler mark.parameters = false then
    .error (.handler (String.ofList mark.parameters))
  else .ok ()

/-- The style that a mark names. -/
def style (mark : Mark) : List Char :=
  if mark.parameters = [] then mark.name else mark.name ++ ' ' :: mark.parameters

end Mark

/-- A mark that is open, and where in the shown text it was opened. -/
structure OpenMark where
  mark : Mark
  start : Nat
  deriving DecidableEq, Repr

/-- A style on a part of a shown text. -/
structure Span where
  style : List Char
  start : Nat
  stop : Nat
  deriving DecidableEq, Repr

namespace OpenMark

def spanTo (opened : OpenMark) (stop : Nat) : Span :=
  ⟨opened.mark.style, opened.start, stop⟩

/-- Closes the last of the open marks that has the name, or the last of all for no name. -/
def close (name : List Char) (opened : List OpenMark) :
    Except MarkupError (OpenMark × List OpenMark) := do
  let isMeant : OpenMark → Bool ← match trim name with
    | [] => pure fun _ => true
    | name => do
      let name ← (Style.normalText name).mapError .style
      pure fun other => other.mark.name = name
  match opened.find? isMeant with
  | none => throw (.unopened (String.ofList ('/' :: name)))
  | some closed => do
    closed.mark.check
    return (closed, opened.eraseP isMeant)

end OpenMark

def opensMark (c : Char) : Bool :=
  'a' ≤ c && c ≤ 'z' || c == '#' || c == '/' || c == '@'

/-- A mark after its opening bracket, and the rest. -/
def markText? (text : List Char) : Option (List Char × List Char) :=
  match text with
  | [] => none
  | c :: _ =>
    let inner := text.takeWhile fun c => c ≠ '[' ∧ c ≠ ']'
    match text.drop inner.length with
    | ']' :: rest => if opensMark c then some (inner, rest) else none
    | _ => none

theorem markText?_length {text inner rest : List Char} (h : markText? text = some (inner, rest)) :
    rest.length < text.length := by
  unfold markText? at h
  split at h
  · cases h
  next c tail =>
    simp only at h
    split at h
    next rest' hr =>
      split at h
      · cases h
        have := congrArg List.length hr
        simp only [List.length_drop, List.length_cons] at this ⊢
        omega
      · cases h
    · cases h

/-- Cuts a text, of which the plain text so far, reversed, and then `slashes` backslashes are
already read. Two of them before a mark stand for one, an odd one takes from the mark its
meaning. -/
def pieces (plain : List Char) (slashes : Nat) (text : List Char) : List Piece :=
  match text with
  | [] => [.shown (List.replicate slashes '\\' ++ plain).reverse]
  | '\\' :: rest => pieces plain (slashes + 1) rest
  | '[' :: rest =>
    match h : markText? rest with
    | some (inner, rest') =>
      have := markText?_length h
      let piece :=
        if slashes % 2 = 1 then .shown ('[' :: inner ++ [']']) else .mark (Mark.ofText inner)
      .shown plain.reverse :: .shown (List.replicate (slashes / 2) '\\') :: piece ::
        pieces [] 0 rest'
    | none => pieces ('[' :: List.replicate slashes '\\' ++ plain) 0 rest
  | c :: rest => pieces (c :: List.replicate slashes '\\' ++ plain) 0 rest
termination_by text.length

/-- A text without the backslashes that stand before brackets. -/
def withoutSlashes : List Char → List Char
  | [] => []
  | '\\' :: '[' :: rest => '[' :: withoutSlashes rest
  | c :: rest => c :: withoutSlashes rest

/-- A text as it is shown, and the styles on its parts. -/
structure Styled where
  text : List Char
  spans : List Span
  deriving DecidableEq, Repr

/-- What is shown of pieces from a place on, with the marks that are open there, the last first. -/
def styledFrom (opened : List OpenMark) (place : Nat) : List Piece → Except MarkupError Styled
  | [] => .ok ⟨[], opened.map (·.spanTo place)⟩
  | .shown text :: rest => do
    let shown := withoutHidden (withEmojis (withoutSlashes text))
    let later ← styledFrom opened (place + shown.length) rest
    return { later with text := shown ++ later.text }
  | .mark mark :: rest =>
    match mark.name with
    | '/' :: name => do
      let (closed, opened) ← OpenMark.close name opened
      let later ← styledFrom opened place rest
      return { later with spans := closed.spanTo place :: later.spans }
    | _ => do styledFrom (⟨← mark.normal, place⟩ :: opened) place rest

/-- A text with marks as it is shown, with emojis in the place of their codes. -/
def styled (text : String) : Except MarkupError Styled :=
  styledFrom [] 0 (pieces [] 0 text.toList)

/-- A text without its marks. -/
def plain (text : String) : Except MarkupError String :=
  (styled text).map fun shown => String.ofList shown.text

end TapeMachine.Console
