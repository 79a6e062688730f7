import TapeMachine.Text.Surrogates
import TapeMachine.Text.Utf8

namespace TapeMachine.Text

/-- A text as stored data may hold it. Halves of surrogate pairs that stand alone tear it: then its
code points are no characters. -/
inductive Wording where
  | whole (text : String)
  | torn (points : List Nat)
  deriving DecidableEq, Repr

/-- Why code points cannot be written as bytes. -/
structure EncodeError where
  points : List Nat
  deriving DecidableEq, Repr

/-- Whether a half stands for a byte, the one that its last two digits name. -/
def hidesByte (point : Nat) : Bool :=
  0xdc80 ≤ point && point ≤ 0xdcff

def hasBytes (point : Nat) : Bool :=
  !isHalf point || hidesByte point

namespace EncodeError

/-- Where the first half without bytes stands. -/
def first (error : EncodeError) : Nat :=
  (error.points.takeWhile hasBytes).length

/-- That half and the halves right after it. -/
def halves (error : EncodeError) : List Nat :=
  (error.points.dropWhile hasBytes).takeWhile isHalf

def message (error : EncodeError) : String :=
  match error.halves with
  | [half] =>
    s!"'utf-8' codec can't encode character '\\u{String.ofList (hex 4 half)}' in position " ++
      s!"{error.first}: surrogates not allowed"
  | halves =>
    s!"'utf-8' codec can't encode characters in position {error.first}-" ++
      s!"{error.first + halves.length - 1}: surrogates not allowed"

end EncodeError

/-- The bytes of a code point. -/
def bytesOf (point : Nat) : List UInt8 :=
  if hidesByte point then [UInt8.ofNat point] else String.utf8EncodeChar (Char.ofNat point)

namespace Wording

instance : Coe String Wording := ⟨whole⟩

/-- The text of some code points, torn if half a pair is among them. -/
def ofPoints (points : List Nat) : Wording :=
  if points.any isHalf then torn points else whole (String.ofList (charsOf points))

def points : Wording → List Nat
  | whole text => text.toList.map Char.toNat
  | torn points => points

/-- The text with a mark for every half. -/
def shown : Wording → String
  | whole text => text
  | torn points => String.ofList (charsOf points)

def append : Wording → Wording → Wording
  | whole a, whole b => whole (a ++ b)
  | a, b => torn (a.points ++ b.points)

instance : Append Wording := ⟨append⟩

/-- The text that the bytes of a wording spell. -/
def spelled : Wording → Except EncodeError String
  | whole text => .ok text
  | torn points =>
    match points.all hasBytes, String.fromUTF8? ⟨(points.flatMap bytesOf).toArray⟩ with
    | true, some text => .ok text
    | _, _ => .error ⟨points⟩

end Wording

end TapeMachine.Text
