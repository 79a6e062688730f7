import TapeMachine.Decimal.Shortest

namespace TapeMachine.Decimal

/-- How a decimal is written: positionally while the exponent of its first digit is at least `-4`
and below `limit`, and whether a whole number carries a point. -/
structure Style where
  limit : Int
  pointed : Bool

/-- Values in settings and records: whole numbers carry a point, and sixteen digits are written
out. -/
def Style.value : Style := ⟨16, true⟩

/-- Coordinates of a path, six significant digits. -/
def Style.coordinate : Style := ⟨6, false⟩

def zerosText (count : Nat) : List Char :=
  List.replicate count '0'

/-- Digits without the zeros that end them. -/
def withoutFinalZeros (digits : List Char) : List Char :=
  match (digits.reverse.dropWhile (· = '0')).reverse with
  | [] => ['0']
  | rest => rest

def positional (pointed : Bool) (digits : List Char) (leading : Int) : List Char :=
  if leading < 0 then '0' :: '.' :: zerosText (-leading - 1).toNat ++ digits
  else
    let whole := leading.toNat + 1
    let fraction := digits.drop whole
    let whole := digits.take whole ++ zerosText (whole - digits.length)
    if fraction ≠ [] then whole ++ '.' :: fraction
    else if pointed then whole ++ ['.', '0']
    else whole

/-- An exponent has a sign and at least two digits. -/
def exponentText (exponent : Int) : List Char :=
  let digits := Nat.toDigits 10 exponent.natAbs
  (if exponent < 0 then '-' else '+') :: zerosText (2 - digits.length) ++ digits

def scientific (digits : List Char) (leading : Int) : List Char :=
  let fraction := match digits.tail with
    | [] => []
    | rest => '.' :: rest
  digits.take 1 ++ fraction ++ 'e' :: exponentText leading

def Style.write (style : Style) (decimal : Digits) : List Char :=
  let digits := withoutFinalZeros (Nat.toDigits 10 decimal.digits)
  if -4 ≤ decimal.leading ∧ decimal.leading < style.limit then
    positional style.pointed digits decimal.leading
  else scientific digits decimal.leading

def signed (negative : Bool) (text : List Char) : String :=
  String.ofList (if negative then '-' :: text else text)

/-- The shortest text that reads back as the same double. -/
def shortestText (x : Float) : String :=
  match Binary.ofFloat x with
  | .nan => "nan"
  | .infinite negative => signed negative "inf".toList
  | .finite negative 0 _ => signed negative "0.0".toList
  | .finite negative mantissa exponent =>
    signed negative (Style.value.write (shortest mantissa exponent))

/-- Six significant digits, without the zeros that end them. -/
def sixDigits (x : Float) : String :=
  match Binary.ofFloat x with
  | .nan => "nan"
  | .infinite negative => signed negative "inf".toList
  | .finite negative 0 _ => signed negative ['0']
  | .finite negative mantissa exponent =>
    let (num, den) := quotient mantissa exponent
    signed negative (Style.coordinate.write (significant 6 num den))

/-- A number of units, each the `places`-th decimal, as text with a point. -/
def placed (places units : Nat) : List Char :=
  let digits := Nat.toDigits 10 units
  let digits := zerosText (places + 1 - digits.length) ++ digits
  digits.take (digits.length - places) ++ '.' :: digits.drop (digits.length - places)

/-- The nearest decimal with a fixed number of places. -/
def fixed (places : Nat) (x : Float) : String :=
  match Binary.ofFloat x with
  | .nan => "nan"
  | .infinite negative => signed negative "inf".toList
  | .finite negative mantissa exponent =>
    let (num, den) := quotient mantissa exponent
    signed negative (placed places (roundDiv (num * Nat.pow 10 places) den))

/-- A coordinate with six places; a value that rounds to zero has no sign. -/
def coordinate (x : Float) : String :=
  match fixed 6 x with
  | "-0.000000" => "0.000000"
  | text => text

/-- A duration in milliseconds as seconds with three places. -/
def seconds (milliseconds : Nat) : String :=
  String.ofList (placed 3 milliseconds)

/-- Digits in groups of three from the right, parted by commas. -/
def groupedDigits (digits : List Char) : List Char :=
  match digits with
  | a :: b :: c :: d :: rest =>
    let grouped := groupedDigits (b :: c :: d :: rest)
    if (b :: c :: d :: rest).length % 3 = 0 then a :: ',' :: grouped else a :: grouped
  | short => short

def grouped (n : Nat) : String :=
  String.ofList (groupedDigits (Nat.toDigits 10 n))

end TapeMachine.Decimal
