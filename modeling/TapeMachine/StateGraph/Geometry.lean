import TapeMachine.Dictionary

namespace TapeMachine.StateGraph

structure Point where
  x : Float
  y : Float
  deriving Inhabited

def center : Point := ⟨150.0, 150.0⟩

def circleRadius : Float := 120.0

/-- The distance from the middle of a state to where its arrows begin and end. -/
def stateRadius : Float := 30.0

def pi : Float := 3.141592653589793

/-- The place of the state with index `i` among `n`, counted from the right of the circle. -/
def onCircle (n i : Nat) : Point :=
  let angle := 2.0 * pi * i.toFloat / n.toFloat
  ⟨center.x + circleRadius * angle.cos, center.y + circleRadius * angle.sin⟩

/-- The places of the listed names around the circle. A name that comes again is moved. -/
def circlePositions (names : List String) : Dictionary String Point :=
  Dictionary.ofPairs (names.zipIdx.map fun (name, i) => (name, onCircle names.length i))

/-- The control points of the loop above a state. -/
def selfLoop (p : Point) : List Point :=
  [⟨p.x, p.y - 20.0⟩, ⟨p.x - 40.0, p.y - 60.0⟩, ⟨p.x + 40.0, p.y - 60.0⟩, ⟨p.x, p.y - 20.0⟩]

/-- The length of a vector with coordinates `a` and `b`, of which `a` is the larger and neither is
below zero. The root of the squares is mended by what it lacks to the larger or the smaller one. -/
def lengthWithin (a b : Float) : Float :=
  let h := Float.sqrt (a * a + b * b)
  if h ≤ 2.0 * b then
    let d := h - b
    h - (a * (2.0 * d - a) + (d - 2.0 * (a - b)) * d) / (2.0 * h)
  else
    let d := h - a
    h - (2.0 * d * (a - 2.0 * b) + ((4.0 * d - b) * b + d * d)) / (2.0 * h)

/-- The length of such a vector, scaled by a power of two so that no square leaves the range. A
coordinate that is far too small to matter is added. -/
def lengthOf (a b : Float) : Float :=
  if b.scaleB 54 ≤ a then a + b
  else if a > Float.scaleB 1.0 511 then
    (lengthWithin (a.scaleB (-600)) (b.scaleB (-600))).scaleB 600
  else if b < Float.scaleB 1.0 (-459) then
    (lengthWithin (a.scaleB 600) (b.scaleB 600)).scaleB (-600)
  else lengthWithin a b

/-- The length of a vector. -/
def distance (dx dy : Float) : Float :=
  let (a, b) := (dx.abs, dy.abs)
  if a.isInf || b.isInf then 1.0 / 0.0
  else if a.isNaN || b.isNaN then a + b
  else if a < b then lengthOf b a
  else lengthOf a b

/-- The control points of an arrow from the rim of `p` to the rim of `q`, bowed to the side of its
direction `d`, where `middle` lies between the two. -/
def bowed (p q d middle : Point) : List Point :=
  let length := distance d.x d.y
  let offset := length / 3.0
  [⟨p.x + d.x * stateRadius / length, p.y + d.y * stateRadius / length⟩,
    ⟨middle.x + -d.y / length * offset * 0.5, middle.y + d.x / length * offset * 0.5⟩,
    ⟨q.x - d.x * stateRadius / length, q.y - d.y * stateRadius / length⟩]

/-- The control points of an arrow between two places; one without a length is not bowed. -/
def curvedEdge (p q : Point) : List Point :=
  let d : Point := ⟨q.x - p.x, q.y - p.y⟩
  if distance d.x d.y == 0.0 then [p, p, q]
  else bowed p q d ⟨(p.x + q.x) / 2.0, (p.y + q.y) / 2.0⟩

end TapeMachine.StateGraph
