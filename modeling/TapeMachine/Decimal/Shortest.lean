import TapeMachine.Decimal.Binary
import TapeMachine.Decimal.Rounding

namespace TapeMachine.Decimal

/-- Four times the distance below which a smaller and a larger number still round to the double,
in units of its last place. Below a power of two the doubles lie twice as close. -/
def reach (mantissa : Nat) (exponent : Int) : Nat × Nat :=
  (if mantissa = Nat.pow 2 52 ∧ -1074 < exponent then 1 else 2, 2)

/-- Whether the quotient `a / b` reads back as the double. A tie reads as the even one. -/
def readsBack (mantissa : Nat) (exponent : Int) (a b : Nat) : Bool :=
  let (below, above) := reach mantissa exponent
  let value := 4 * a * Nat.pow 2 (-exponent).toNat
  let unit := b * Nat.pow 2 exponent.toNat
  let low := (4 * mantissa - below) * unit
  let high := (4 * mantissa + above) * unit
  if mantissa % 2 = 0 then low ≤ value && value ≤ high else low < value && value < high

/-- The decimals of `count` digits next to the double on either side, the nearer one first. -/
def neighbours (count : Nat) (mantissa : Nat) (exponent : Int) : List Digits :=
  let (num, den) := quotient mantissa exponent
  let leading := leadingExponent num den
  let (num, den) := scaled num den (count - 1 - leading)
  let below := Digits.carry count (num / den) leading
  let above := Digits.carry count (num / den + 1) leading
  if roundDiv num den = num / den then [below, above] else [above, below]

/-- The decimal's value as a quotient, where `count` digits were asked for. -/
def Digits.quotient (count : Nat) (decimal : Digits) : Nat × Nat :=
  scaled decimal.digits 1 (decimal.leading - (count - 1))

/-- The fewest digits that read back as the double, and of those the nearest. -/
def shortest (mantissa : Nat) (exponent : Int) : Digits :=
  let tries := (List.range 17).findSome? fun fewer =>
    (neighbours (fewer + 1) mantissa exponent).find? fun decimal =>
      let (a, b) := decimal.quotient (fewer + 1)
      readsBack mantissa exponent a b
  tries.getD ⟨mantissa, 0⟩

end TapeMachine.Decimal
