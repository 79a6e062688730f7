import TapeMachine.Decimal.Binary
import TapeMachine.Dictionary
import TapeMachine.Text.Wording

namespace TapeMachine.Json

/-- The key of a field: a text, or a single value in its place. A torn text has halves of surrogate
pairs that stand alone, so its code points are no characters. -/
inductive Key where
  | text (s : String)
  | torn (points : List Nat)
  | null
  | bool (b : Bool)
  | int (n : Int)
  | float (x : Float)

namespace Key

instance : Coe String Key := ⟨text⟩

/-- The text of some code points, torn if half a pair is among them. -/
def ofPoints (points : List Nat) : Key :=
  if points.any Text.isHalf then torn points else text (String.ofList (Text.charsOf points))

/-- The code points of a text; another key has none. -/
def points : Key → List Nat
  | text s => s.toList.map Char.toNat
  | torn points => points
  | _ => []

/-- What keys are told apart by: numbers by their values, whole ones however they are spelled. -/
inductive Identity where
  | text (s : String)
  | torn (points : List Nat)
  | null
  | whole (n : Int)
  | bits (x : UInt64)
  deriving DecidableEq

def identity : Key → Identity
  | text s => .text s
  | torn points => .torn points
  | null => .null
  | bool b => .whole (if b then 1 else 0)
  | int n => .whole n
  | float x =>
    match (Decimal.Exact.ofFloat x).whole? with
    | some n => .whole n
    | none => .bits x.toBits

/-- Keys are the same if nothing tells them apart. -/
instance : BEq Key := ⟨fun a b => a.identity == b.identity⟩

theorem beq_iff {a b : Key} : (a == b) = true ↔ a.identity = b.identity :=
  show (a.identity == b.identity) = true ↔ _ from beq_iff_eq

instance : EquivBEq Key where
  rfl := beq_iff.mpr rfl
  symm h := beq_iff.mpr (beq_iff.mp h).symm
  trans h h' := beq_iff.mpr ((beq_iff.mp h).trans (beq_iff.mp h'))

end Key

end TapeMachine.Json

namespace TapeMachine

/-- A JSON value. Whole numbers and floating ones are told apart by their spelling, and the fields
of an object keep their order. -/
inductive Json where
  | null
  | bool (b : Bool)
  | int (n : Int)
  | float (x : Float)
  | str (s : String)
  | torn (points : List Nat)
  | arr (items : List Json)
  | obj (fields : List (Json.Key × Json))
  deriving Inhabited

namespace Json

abbrev Fields := Dictionary Key Json

def ofOption (text : Option String) : Json :=
  match text with
  | some s => str s
  | none => null

def ofWording : Text.Wording → Json
  | .whole s => str s
  | .torn points => torn points

def ofNat (n : Nat) : Json :=
  int (Int.ofNat n)

/-- A key as a value. -/
def ofKey : Key → Json
  | .text s => str s
  | .torn points => torn points
  | .null => null
  | .bool b => bool b
  | .int n => int n
  | .float x => float x

/-- A value as a key; a list or an object is none. -/
def key? : Json → Option Key
  | str s => some (.text s)
  | torn points => some (.torn points)
  | null => some .null
  | bool b => some (.bool b)
  | int n => some (.int n)
  | float x => some (.float x)
  | arr _ | obj _ => none

end Json

end TapeMachine
