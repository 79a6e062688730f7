import TapeMachine.Json.Basic
import TapeMachine.Text.Numeral

namespace TapeMachine.Json

open Text (hexDigit? isAsciiDigit ofAsciiDigits)

/-- What was looked for where a text stops being JSON. -/
inductive Expected where
  | value
  | name
  | colon
  | comma
  | closingQuote
  | noControl
  | escape
  | unicodeEscape
  | finish
  | noMark
  deriving DecidableEq, Repr

def Expected.message : Expected → String
  | value => "Expecting value"
  | name => "Expecting property name enclosed in double quotes"
  | colon => "Expecting ':' delimiter"
  | comma => "Expecting ',' delimiter"
  | closingQuote => "Unterminated string starting at"
  | noControl => "Invalid control character at"
  | escape => "Invalid \\escape"
  | unicodeEscape => "Invalid \\uXXXX escape"
  | finish => "Extra data"
  | noMark => "Unexpected UTF-8 BOM (decode using utf-8-sig)"

inductive ReadError where
  | syntaxAt (expected : Expected) (line column position : Nat)
  | tooManyDigits (count : Nat)
  | tooDeep
  deriving DecidableEq, Repr

def ReadError.message : ReadError → String
  | syntaxAt expected line column position =>
    s!"{expected.message}: line {line} column {column} (char {position})"
  | tooManyDigits count =>
    s!"Exceeds the limit ({Text.maxDigits} digits) for integer string conversion: value has " ++
      s!"{count} digits; use sys.set_int_max_str_digits() to increase the limit"
  | tooDeep => "maximum recursion depth exceeded while decoding a JSON text"

/-- A failure, at the place where `rest` was still to be read. -/
inductive Failure where
  | unexpected (expected : Expected) (rest : List Char)
  | tooManyDigits (count : Nat)
  | tooDeep

abbrev Step (α : Type) := Except Failure (α × List Char)

def isSpace (c : Char) : Bool :=
  c == ' ' || c == '\t' || c == '\n' || c == '\r'

def skipSpace (text : List Char) : List Char :=
  text.dropWhile isSpace

def unit? (a b c d : Char) : Option Nat := do
  return (((← hexDigit? a) * 16 + (← hexDigit? b)) * 16 + (← hexDigit? c)) * 16 + (← hexDigit? d)

def simpleEscape? : Char → Option Nat
  | '"' => some 34
  | '\\' => some 92
  | '/' => some 47
  | 'b' => some 8
  | 'f' => some 12
  | 'n' => some 10
  | 'r' => some 13
  | 't' => some 9
  | _ => none

/-- The units of a string after its opening quote; `opening` is the text from that quote on, and
`done` are the units read so far, the last one first. -/
def readUnits (opening : List Char) (done : List Nat) : List Char → Step (List Nat)
  | [] => .error (.unexpected .closingQuote opening)
  | '"' :: rest => .ok (done.reverse, rest)
  | '\\' :: 'u' :: a :: b :: c :: d :: rest =>
    match unit? a b c d, rest with
    | some unit, _ :: _ => readUnits opening (unit :: done) rest
    | _, _ => .error (.unexpected .unicodeEscape ('u' :: a :: b :: c :: d :: rest))
  | '\\' :: 'u' :: rest => .error (.unexpected .unicodeEscape ('u' :: rest))
  | ['\\'] => .error (.unexpected .closingQuote opening)
  | '\\' :: c :: rest =>
    match simpleEscape? c with
    | some unit => readUnits opening (unit :: done) rest
    | none => .error (.unexpected .escape ('\\' :: c :: rest))
  | c :: rest =>
    if c.toNat < 32 then .error (.unexpected .noControl (c :: rest))
    else readUnits opening (c.toNat :: done) rest

/-- A string, its opening quote already read. -/
def readString (rest : List Char) : Step Key :=
  (readUnits ('"' :: rest) [] rest).map fun (units, rest) =>
    (Key.ofPoints (Text.joinHalves units), rest)

/-- The parts of a number: its sign, its whole digits, and digits and exponent after them. -/
structure Numeral where
  negative : Bool
  whole : List Char
  fraction : List Char
  exponent : Option Int

def readExponent? : List Char → Option (Int × List Char)
  | e :: rest =>
    if e = 'e' ∨ e = 'E' then
      let (negative, digits) := match rest with
        | '-' :: digits => (true, digits)
        | '+' :: digits => (false, digits)
        | digits => (false, digits)
      match digits.takeWhile isAsciiDigit with
      | [] => none
      | ds =>
        let n := Int.ofNat (ofAsciiDigits ds)
        some (if negative then -n else n, digits.dropWhile isAsciiDigit)
    else none
  | [] => none

def readFraction : List Char → List Char × List Char
  | '.' :: rest =>
    match rest.takeWhile isAsciiDigit with
    | [] => ([], '.' :: rest)
    | digits => (digits, rest.dropWhile isAsciiDigit)
  | rest => ([], rest)

/-- Whole digits: a zero on its own or digits that begin with another. -/
def readWhole? : List Char → Option (List Char × List Char)
  | '0' :: rest => some (['0'], rest)
  | rest =>
    match rest.takeWhile isAsciiDigit with
    | [] => none
    | digits => some (digits, rest.dropWhile isAsciiDigit)

def readNumeral? (text : List Char) : Option (Numeral × List Char) := do
  let (negative, rest) := match text with
    | '-' :: rest => (true, rest)
    | rest => (false, rest)
  let (whole, rest) ← readWhole? rest
  let (fraction, rest) := readFraction rest
  match readExponent? rest with
  | some (exponent, rest) => return (⟨negative, whole, fraction, some exponent⟩, rest)
  | none => return (⟨negative, whole, fraction, none⟩, rest)

/-- The double nearest to digits times a power of ten. Powers far outside the range of doubles are
not computed. -/
def nearestFloat (digits : List Char) (exponent : Int) : Float :=
  let digits := digits.dropWhile (· = '0')
  let size := Int.ofNat digits.length + exponent
  if digits = [] ∨ size < -400 then 0.0
  else if 400 < size then 1.0 / 0.0
  else
    let n := ofAsciiDigits digits
    if exponent < 0 then Float.ofScientific n true exponent.natAbs
    else Float.ofScientific n false exponent.natAbs

def Numeral.value (numeral : Numeral) : Except Failure Json :=
  if numeral.fraction = [] ∧ numeral.exponent = none then
    if Text.maxDigits < numeral.whole.length then
      .error (.tooManyDigits numeral.whole.length)
    else
      let n := Int.ofNat (ofAsciiDigits numeral.whole)
      .ok (int (if numeral.negative then -n else n))
  else
    let exponent := numeral.exponent.getD 0 - numeral.fraction.length
    let x := nearestFloat (numeral.whole ++ numeral.fraction) exponent
    .ok (float (if numeral.negative then -x else x))

def words : List (String × Json) :=
  [("null", null), ("true", bool true), ("false", bool false), ("NaN", float (0.0 / 0.0)),
    ("Infinity", float (1.0 / 0.0)), ("-Infinity", float (-1.0 / 0.0))]

/-- A value that holds no other: a word or a number. -/
def readSimple (text : List Char) : Step Json :=
  match words.find? fun word => word.1.toList.isPrefixOf text with
  | some (word, value) => .ok (value, text.drop word.length)
  | none =>
    match readNumeral? text with
    | some (numeral, rest) => numeral.value.map (·, rest)
    | none => .error (.unexpected .value text)

/-- A name and the colon after it, up to the value. -/
def readName : List Char → Step Key
  | '"' :: rest =>
    match readString rest with
    | .error failure => .error failure
    | .ok (name, rest) =>
      match skipSpace rest with
      | ':' :: rest => .ok (name, skipSpace rest)
      | rest => .error (.unexpected .colon rest)
  | rest => .error (.unexpected .name rest)

/-- How deep lists and objects may lie in each other. -/
def maxDepth : Nat := 985

/-- A string as a value. -/
def readText (rest : List Char) : Step Json :=
  (readString rest).map fun (key, rest) => (ofKey key, rest)

mutual

/-- A value, in which lists and objects may lie `depth` deep. Each call of the three readers comes
at least every second time with a shorter text, so a budget of twice the length is never used up. -/
def readValue (depth : Nat) : Nat → List Char → Step Json
  | 0, text => .error (.unexpected .value text)
  | budget + 1, text =>
    match text with
    | '"' :: rest => readText rest
    | '[' :: rest =>
      if depth = 0 then .error .tooDeep
      else
        match skipSpace rest with
        | ']' :: rest => .ok (arr [], rest)
        | rest => readItems (depth - 1) budget [] rest
    | '{' :: rest =>
      if depth = 0 then .error .tooDeep
      else
        match skipSpace rest with
        | '}' :: rest => .ok (obj [], rest)
        | rest => readFields (depth - 1) budget [] rest
    | text => readSimple text

/-- The items of a list from one of them on. -/
def readItems (depth : Nat) : Nat → List Json → List Char → Step Json
  | 0, _, text => .error (.unexpected .value text)
  | budget + 1, done, text =>
    match readValue depth budget text with
    | .error failure => .error failure
    | .ok (item, rest) =>
      match skipSpace rest with
      | ']' :: rest => .ok (arr (item :: done).reverse, rest)
      | ',' :: rest => readItems depth budget (item :: done) (skipSpace rest)
      | rest => .error (.unexpected .comma rest)

/-- The fields of an object from one of them on. -/
def readFields (depth : Nat) : Nat → List (Key × Json) → List Char → Step Json
  | 0, _, text => .error (.unexpected .value text)
  | budget + 1, done, text =>
    match readName text with
    | .error failure => .error failure
    | .ok (name, rest) =>
      match readValue depth budget rest with
      | .error failure => .error failure
      | .ok (value, rest) =>
        match skipSpace rest with
        | '}' :: rest => .ok (obj (Dictionary.ofPairs ((name, value) :: done).reverse), rest)
        | ',' :: rest => readFields depth budget ((name, value) :: done) (skipSpace rest)
        | rest => .error (.unexpected .comma rest)

end

/-- The error at the place where `rest` is left of the text, with its line and column. -/
def errorAt (text : List Char) (expected : Expected) (rest : List Char) : ReadError :=
  let read := text.take (text.length - rest.length)
  .syntaxAt expected (read.count '\n' + 1) ((read.reverse.takeWhile (· ≠ '\n')).length + 1)
    read.length

def readChars (text : List Char) : Except Failure Json :=
  match text with
  | '\ufeff' :: _ => .error (.unexpected .noMark text)
  | _ =>
    match readValue maxDepth (2 * text.length + 2) (skipSpace text) with
    | .error failure => .error failure
    | .ok (value, rest) =>
      match skipSpace rest with
      | [] => .ok value
      | rest => .error (.unexpected .finish rest)

/-- Reads a JSON text. Of two fields with one name the later value counts. -/
def read (text : String) : Except ReadError Json :=
  match readChars text.toList with
  | .ok value => .ok value
  | .error (.unexpected expected rest) => .error (errorAt text.toList expected rest)
  | .error (.tooManyDigits count) => .error (.tooManyDigits count)
  | .error .tooDeep => .error .tooDeep

end TapeMachine.Json
