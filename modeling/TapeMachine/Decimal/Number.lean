import TapeMachine.Decimal.Binary

namespace TapeMachine.Decimal

/-- A number as it was spelled: a whole one, however large, or a floating one. -/
inductive Number where
  | whole (n : Int)
  | real (x : Float)

/-- A whole number lies outside the range of doubles. -/
inductive RangeError where
  | tooLarge
  deriving DecidableEq, Repr

def RangeError.message : RangeError → String
  | tooLarge => "int too large to convert to float"

/-- A double that stands for a whole number, unless there is none in range. -/
def inRange (x : Float) : Except RangeError Float :=
  if x.isInf then .error .tooLarge else .ok x

/-- The double nearest to a number of halves. -/
def ofHalves (n : Int) : Float :=
  let x := Float.ofScientific (5 * n.natAbs) true 1
  if n < 0 then -x else x

namespace Number

def exact : Number → Exact
  | whole n => .ofInt n
  | real x => .ofFloat x

/-- The double nearest to a number. -/
def float : Number → Except RangeError Float
  | whole n => inRange (Float.ofInt n)
  | real x => .ok x

/-- Whole numbers are added exactly. -/
def add : Number → Number → Except RangeError Number
  | whole a, whole b => .ok (whole (a + b))
  | a, b => return real ((← a.float) + (← b.float))

/-- Whole numbers are subtracted exactly. -/
def sub : Number → Number → Except RangeError Number
  | whole a, whole b => .ok (whole (a - b))
  | a, b => return real ((← a.float) - (← b.float))

/-- The double nearest to the half of a number. -/
def half : Number → Except RangeError Float
  | whole n => inRange (ofHalves n)
  | real x => .ok (x / 2.0)

end Number

end TapeMachine.Decimal
