namespace TapeMachine.Decimal

/-- The whole number nearest to a quotient, an even one where two are equally near. -/
def roundDiv (num den : Nat) : Nat :=
  if 2 * (num % den) < den ∨ 2 * (num % den) = den ∧ num / den % 2 = 0 then num / den
  else num / den + 1

/-- The number of decimal digits, none for zero. -/
def digitCount (n : Nat) : Nat :=
  if n = 0 then 0 else (Nat.toDigits 10 n).length

/-- The exponent of the first digit of a positive quotient. -/
def leadingExponent (num den : Nat) : Int :=
  if den ≤ num then digitCount (num / den) - 1
  else -(digitCount ((den + num - 1) / num - 1) : Int)

/-- A quotient times a power of ten, as a numerator and a denominator. -/
def scaled (num den : Nat) (exponent : Int) : Nat × Nat :=
  (num * Nat.pow 10 exponent.toNat, den * Nat.pow 10 (-exponent).toNat)

/-- A positive decimal: its digits as one whole number, and the exponent of the first of them. -/
structure Digits where
  digits : Nat
  leading : Int
  deriving DecidableEq, Repr

/-- The decimal with so many digits, a carry into a further digit taken up by the exponent. -/
def Digits.carry (count digits : Nat) (leading : Int) : Digits :=
  if digits = Nat.pow 10 count then ⟨Nat.pow 10 (count - 1), leading + 1⟩ else ⟨digits, leading⟩

/-- The nearest decimal of `count` digits to a positive quotient. -/
def significant (count : Nat) (num den : Nat) : Digits :=
  let leading := leadingExponent num den
  let (num, den) := scaled num den (count - 1 - leading)
  Digits.carry count (roundDiv num den) leading

end TapeMachine.Decimal
