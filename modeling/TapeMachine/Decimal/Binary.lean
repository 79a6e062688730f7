namespace TapeMachine.Decimal

/-- What a double stands for: a finite one is its mantissa times a power of two. -/
inductive Binary where
  | nan
  | infinite (negative : Bool)
  | finite (negative : Bool) (mantissa : Nat) (exponent : Int)
  deriving DecidableEq, Repr

def Binary.ofFloat (x : Float) : Binary :=
  let bits := x.toBits.toNat
  let negative := Nat.pow 2 63 ≤ bits
  let exponent := bits / Nat.pow 2 52 % Nat.pow 2 11
  let fraction := bits % Nat.pow 2 52
  if exponent = 2047 then if fraction = 0 then infinite negative else nan
  else if exponent = 0 then finite negative fraction (-1074)
  else finite negative (Nat.pow 2 52 + fraction) (Int.ofNat exponent - 1075)

/-- A mantissa times a power of two as a numerator and a denominator. -/
def quotient (mantissa : Nat) (exponent : Int) : Nat × Nat :=
  (mantissa * Nat.pow 2 exponent.toNat, Nat.pow 2 (-exponent).toNat)

/-- A number as what it is exactly: a quotient of whole numbers, or beyond all of them. -/
inductive Exact where
  | nan
  | infinite (negative : Bool)
  | quotient (num : Int) (den : Nat)
  deriving DecidableEq, Repr

namespace Exact

def ofInt (n : Int) : Exact :=
  quotient n 1

def ofFloat (x : Float) : Exact :=
  match Binary.ofFloat x with
  | .nan => nan
  | .infinite negative => infinite negative
  | .finite negative mantissa exponent =>
    let (num, den) := Decimal.quotient mantissa exponent
    quotient (if negative then -Int.ofNat num else num) den

/-- Whether a number lies below another. What is no number lies nowhere. -/
def below : Exact → Exact → Bool
  | quotient a b, quotient c d => decide (a * d < c * b)
  | infinite negative, infinite other => negative && !other
  | infinite negative, quotient .. => negative
  | quotient .., infinite negative => !negative
  | _, _ => false

/-- Whether two numbers are equal. What is no number is not even equal to itself. -/
def same : Exact → Exact → Bool
  | quotient a b, quotient c d => a * d == c * b
  | infinite negative, infinite other => negative == other
  | _, _ => false

/-- The whole number that a number is, if it is one. -/
def whole? : Exact → Option Int
  | quotient num den => if num % den = 0 then some (num / den) else none
  | _ => none

end Exact

end TapeMachine.Decimal
