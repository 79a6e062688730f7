namespace TapeMachine.Text

/-- The first half of a surrogate pair. -/
def isHighHalf (point : Nat) : Bool :=
  0xd800 ≤ point && point ≤ 0xdbff

/-- The second half of a surrogate pair. -/
def isLowHalf (point : Nat) : Bool :=
  0xdc00 ≤ point && point ≤ 0xdfff

def isHalf (point : Nat) : Bool :=
  isHighHalf point || isLowHalf point

/-- The code points of units in which a high and a low half next to each other stand for one. -/
def joinHalves : List Nat → List Nat
  | [] => []
  | [point] => [point]
  | high :: low :: rest =>
    if isHighHalf high && isLowHalf low then
      (0x10000 + (high - 0xd800) * 0x400 + (low - 0xdc00)) :: joinHalves rest
    else high :: joinHalves (low :: rest)

/-- The two halves of a code point above the first plane. -/
def halvesOf (point : Nat) : Nat × Nat :=
  let above := point - 0x10000
  (0xd800 + above / 0x400, 0xdc00 + above % 0x400)

/-- The characters of code points; half a pair has none and is replaced. -/
def charsOf (points : List Nat) : List Char :=
  points.map fun point => if isHalf point then '\ufffd' else Char.ofNat point

end TapeMachine.Text
