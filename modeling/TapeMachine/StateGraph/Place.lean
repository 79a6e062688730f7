import TapeMachine.Decimal.Number
import TapeMachine.StateGraph.Geometry

namespace TapeMachine.StateGraph

open Decimal (Number RangeError)

/-- A place as it was given, its coordinates whole or floating numbers. -/
structure Place where
  x : Number
  y : Number

/-- Why there is no curve between places: a coordinate is no double, or a whole distance is none
that is measured. -/
inductive PlaceError where
  | range (error : RangeError)
  | unmeasured
  deriving DecidableEq, Repr

namespace Place

def point (p : Place) : Except RangeError Point :=
  return ⟨← p.x.float, ← p.y.float⟩

/-- A place moved by whole numbers. -/
def shifted (p : Place) (dx dy : Int) : Except RangeError Place :=
  return ⟨← p.x.add (.whole dx), ← p.y.add (.whole dy)⟩

/-- The control points of the loop above a place. -/
def selfLoop (p : Place) : Except RangeError (List Point) :=
  [(0, -20), (-40, -60), (40, -60), (0, -20)].mapM fun (dx, dy) => do (← p.shifted dx dy).point

/-- Whether a distance along an axis is measured. A whole one must be a number of 64 bits. -/
def isMeasured : Number → Bool
  | .whole n => -0x8000000000000000 ≤ n && n < 0x10000000000000000
  | .real _ => true

/-- The direction from a place to another. -/
def direction (p q : Place) : Except PlaceError Point := do
  let dx ← (q.x.sub p.x).mapError .range
  let dy ← (q.y.sub p.y).mapError .range
  if isMeasured dx && isMeasured dy then (Place.point ⟨dx, dy⟩).mapError .range
  else throw .unmeasured

/-- The point between two places. -/
def middle (p q : Place) : Except RangeError Point :=
  return ⟨← (← p.x.add q.x).half, ← (← p.y.add q.y).half⟩

/-- The control points of an arrow between two places; one without a length is not bowed. -/
def curvedEdge (p q : Place) : Except PlaceError (List Point) := do
  let d ← direction p q
  let source ← p.point.mapError .range
  let target ← q.point.mapError .range
  if distance d.x d.y == 0.0 then return [source, source, target]
  else return bowed source target d (← (middle p q).mapError .range)

end Place

end TapeMachine.StateGraph
