import TapeMachine.Text.CharacterName
import TapeMachine.Text.Lines
import TapeMachine.Text.Numeral
import TapeMachine.Text.Word

namespace TapeMachine.Console

open Text

/-- What a literal is, as far as it decides where the literal may stand: a number may follow a sign
or be part of a sum, and a key or a member of a set is no collection that can change. -/
inductive Literal where
  | number (imaginary signed : Bool)
  | other (fixed : Bool)
  deriving DecidableEq, Repr

namespace Literal

def isFixed : Literal → Bool
  | number .. => true
  | other fixed => fixed

/-- The literal with a sign before it. -/
def signed? : Literal → Option Literal
  | number imaginary false => some (number imaginary true)
  | _ => none

/-- A real number and an imaginary one without a sign make a complex number. -/
def sum? : Literal → Literal → Option Literal
  | number false _, number true false => some (other true)
  | _, _ => none

/-- The text after a comment, from its line end on. -/
def afterComment (text : List Char) : List Char :=
  text.dropWhile (· ≠ '\n')

theorem afterComment_length_le (text : List Char) : (afterComment text).length ≤ text.length :=
  (List.dropWhile_sublist _).length_le

/-- Passes over blanks, joined lines and, inside of brackets, comments and line ends. -/
def skip (nested : Bool) (text : List Char) : List Char :=
  match text with
  | [] => []
  | '\\' :: '\n' :: rest => skip nested rest
  | c :: rest =>
    if c = ' ' ∨ c = '\t' ∨ c = '\x0c' ∨ nested ∧ c = '\n' then skip nested rest
    else if nested ∧ c = '#' then
      have := afterComment_length_le rest
      skip nested (afterComment rest)
    else text
termination_by text.length

/-- The text from its first line on that is neither empty nor a comment. It must not be indented. -/
def firstLine? (isIndented : Bool) (text : List Char) : Option (List Char) :=
  match text with
  | [] => none
  | '\\' :: '\n' :: rest => firstLine? isIndented rest
  | c :: rest =>
    if c = '\n' ∨ c = '\x0c' then firstLine? false rest
    else if c = ' ' ∨ c = '\t' then firstLine? true rest
    else if c = '#' then
      have := afterComment_length_le rest
      firstLine? false (afterComment rest)
    else if isIndented then none
    else some text
termination_by text.length

/-- A character that may be part of a name. -/
def isNameChar (c : Char) : Bool :=
  isWord c || 128 ≤ c.toNat

/-- Digits with single low lines between them. -/
def digitRun (isDigit : Char → Bool) : List Char → List Char × List Char
  | [] => ([], [])
  | '_' :: c :: rest =>
    if isDigit c then
      let (digits, rest) := digitRun isDigit rest
      (c :: digits, rest)
    else ([], '_' :: c :: rest)
  | c :: rest =>
    if isDigit c then
      let (digits, rest) := digitRun isDigit rest
      (c :: digits, rest)
    else ([], c :: rest)

/-- Digits that begin with one. -/
def digits? (isDigit : Char → Bool) : List Char → Option (List Char × List Char)
  | '_' :: _ => none
  | text =>
    match digitRun isDigit text with
    | ([], _) => none
    | found => some found

/-- The base that a letter after a zero asks for, by its digits. -/
def baseOf? (c : Char) : Option (Char → Bool) :=
  match c.toLower with
  | 'x' => some fun c => (hexDigit? c).isSome
  | 'o' => some fun c => '0' ≤ c && c ≤ '7'
  | 'b' => some fun c => c == '0' || c == '1'
  | _ => none

def exponent? : List Char → Option (List Char)
  | e :: rest =>
    if e = 'e' ∨ e = 'E' then
      match rest with
      | sign :: digits =>
        if sign = '+' ∨ sign = '-' then (digits? isAsciiDigit digits).map Prod.snd
        else (digits? isAsciiDigit rest).map Prod.snd
      | [] => none
    else none
  | [] => none

/-- A point and the digits after it. -/
def fraction? (text : List Char) : Option (List Char) :=
  match text with
  | '.' :: rest => some (((digits? isAsciiDigit rest).map Prod.snd).getD rest)
  | _ => none

/-- Whether whole digits may stand alone: not after a zero, nor in too large a number. -/
def isWhole (digits : List Char) : Bool :=
  (digits.head? ≠ some '0' || digits.all (· = '0')) && digits.length ≤ maxDigits

/-- What follows the whole digits of a number. -/
def afterWhole (digits rest : List Char) : Option (Literal × List Char) :=
  let afterFraction := (fraction? rest).getD rest
  let afterExponent := (exponent? afterFraction).getD afterFraction
  match afterExponent with
  | 'j' :: rest | 'J' :: rest => some (number true false, rest)
  | _ =>
    if (fraction? rest).isNone ∧ (exponent? afterFraction).isNone ∧ isWhole digits = false then none
    else some (number false false, afterExponent)

/-- A number that no further character of a name follows. -/
def number? (text : List Char) : Option (Literal × List Char) := do
  let (literal, rest) ← match text with
    | '0' :: letter :: rest =>
      match baseOf? letter with
      | some isDigit => do
        let (_, rest) ← digits? isDigit (if rest.head? = some '_' then rest.tail else rest)
        pure (number false false, rest)
      | none => do
        let (digits, rest) ← digits? isAsciiDigit text
        afterWhole digits rest
    | '.' :: rest => do
      let _ ← digits? isAsciiDigit rest
      afterWhole [] text
    | _ => do
      let (digits, rest) ← digits? isAsciiDigit text
      afterWhole digits rest
  if (rest.head?).any isNameChar then none else some (literal, rest)

/-- What the letters before a quote say about a text. -/
structure Form where
  isRaw : Bool
  isBytes : Bool
  deriving DecidableEq, Repr

def formOf? (letters : List Char) : Option Form :=
  match String.ofList (letters.map Char.toLower) with
  | "" | "u" => some ⟨false, false⟩
  | "r" => some ⟨true, false⟩
  | "b" => some ⟨false, true⟩
  | "br" | "rb" => some ⟨true, true⟩
  | _ => none

/-- What follows so many hexadecimal digits. -/
def afterHex? (count : Nat) (text : List Char) : Option (List Char) :=
  let digits := text.take count
  if digits.length = count ∧ digits.all fun c => (hexDigit? c).isSome then some (text.drop count)
  else none

/-- Whether the name of a character stands in braces at the front. -/
def isNamed : List Char → Bool
  | '{' :: rest =>
    let name := rest.takeWhile (· ≠ '}')
    name.length < rest.length && isCharacterName name
  | _ => false

/-- Whether an escape stands at the front, its backslash already read. -/
def isEscape (form : Form) : List Char → Bool
  | 'x' :: rest => form.isRaw || (afterHex? 2 rest).isSome
  | 'u' :: rest => form.isRaw || form.isBytes || (afterHex? 4 rest).isSome
  | 'U' :: rest =>
    form.isRaw || form.isBytes ||
      (afterHex? 8 rest).isSome && ofHexDigits (rest.take 8) ≤ 0x10ffff
  | 'N' :: rest => form.isRaw || form.isBytes || isNamed rest
  | _ => true

/-- The rest after a text that `closing` ends. -/
def afterText? (form : Form) (closing : List Char) : List Char → Option (List Char)
  | [] => none
  | '\\' :: c :: rest =>
    if isEscape form (c :: rest) ∧ (form.isBytes = false ∨ c.toNat < 128) then
      afterText? form closing rest
    else none
  | c :: rest =>
    if closing.isPrefixOf (c :: rest) then some ((c :: rest).drop closing.length)
    else if closing.length = 1 ∧ c = '\n' then none
    else if form.isBytes ∧ 128 ≤ c.toNat then none
    else afterText? form closing rest

/-- A text in quotes. -/
def text? (input : List Char) : Option (Form × List Char) := do
  let letters := input.takeWhile Char.isAlpha
  let form ← formOf? letters
  match input.drop letters.length with
  | quote :: rest =>
    if quote = '\'' ∨ quote = '"' then
      let rest ← if [quote, quote].isPrefixOf rest
        then afterText? form [quote, quote, quote] (rest.drop 2)
        else afterText? form [quote] rest
      return (form, rest)
    else none
  | [] => none

/-- The rest after texts of one kind that stand in a row. -/
def afterTexts (nested : Bool) (isBytes : Bool) : Nat → List Char → Option (List Char)
  | 0, _ => none
  | budget + 1, rest =>
    match text? (skip nested rest) with
    | none => some rest
    | some (form, rest) =>
      if form.isBytes = isBytes then afterTexts nested isBytes budget rest else none

/-- How deep brackets may lie in each other. -/
def maxDepth : Nat := 200

/-- A name that is a literal. -/
def word? (depth : Nat) (input : List Char) : Option (Literal × List Char) :=
  let name := input.takeWhile isNameChar
  let rest := input.drop name.length
  match String.ofList name with
  | "True" | "False" | "None" => some (other true, rest)
  | "set" =>
    match skip (depth ≠ 0) rest with
    | '(' :: rest =>
      match skip true rest with
      | ')' :: rest => if depth < maxDepth then some (other false, rest) else none
      | _ => none
    | _ => none
  | _ => none

/-- A literal that holds no other. -/
def simple? (depth : Nat) (input : List Char) : Option (Literal × List Char) :=
  match input with
  | '.' :: '.' :: '.' :: rest => some (other true, rest)
  | _ =>
    match text? input with
    | some (form, rest) =>
      (afterTexts (depth ≠ 0) form.isBytes (rest.length + 1) rest).map (other true, ·)
    | none => number? input <|> word? depth input

/-- Whether a bracket opens. -/
def opensBracket (c : Char) : Bool :=
  c == '(' || c == '{'

mutual

/-- A literal, or a sum of two. The budget is used up by no text shorter than it. -/
def expression? (depth : Nat) : Nat → List Char → Option (Literal × List Char)
  | 0, _ => none
  | budget + 1, input => do
    let nested := depth ≠ 0
    let (left, rest) ← term? depth budget input
    match skip nested rest with
    | '+' :: rest | '-' :: rest =>
      let (right, rest) ← term? depth budget (skip nested rest)
      return (← sum? left right, skip nested rest)
    | rest => return (left, rest)
termination_by structural budget => budget

/-- A literal with a sign or without. -/
def term? (depth : Nat) : Nat → List Char → Option (Literal × List Char)
  | 0, _ => none
  | budget + 1, input => do
    match input with
    | '+' :: rest | '-' :: rest =>
      let (literal, rest) ← atom? depth budget (skip (depth ≠ 0) rest)
      return (← literal.signed?, rest)
    | input => atom? depth budget input
termination_by structural budget => budget

/-- A literal on its own, or in brackets. -/
def atom? (depth : Nat) : Nat → List Char → Option (Literal × List Char)
  | 0, _ => none
  | budget + 1, input =>
    if maxDepth ≤ depth ∧ (input.head?).any opensBracket then none
    else
      match input with
      | '(' :: rest =>
        match skip true rest with
        | ')' :: rest => some (other true, rest)
        | rest => do
          let (first, rest) ← expression? (depth + 1) budget rest
          match rest with
          | ')' :: rest => return (first, rest)
          | _ => members? (depth + 1) ')' budget first.isFixed rest
      | '{' :: rest =>
        match skip true rest with
        | '}' :: rest => some (other false, rest)
        | rest => do
          let (first, rest) ← expression? (depth + 1) budget rest
          if first.isFixed = false then none
          else
            match rest with
            | ':' :: rest => fields? (depth + 1) budget rest
            | '}' :: rest => return (other false, rest)
            | rest => members? (depth + 1) '}' budget true rest
      | input => simple? depth input
termination_by structural budget => budget

/-- The members of a tuple or a set after the first, up to the bracket. -/
def members? (depth : Nat) (closing : Char) : Nat → Bool → List Char → Option (Literal × List Char)
  | 0, _, _ => none
  | budget + 1, fixed, input =>
    match input with
    | ',' :: rest =>
      match skip true rest with
      | [] => none
      | c :: rest =>
        if c = closing then some (other (closing = ')' && fixed), rest)
        else do
          let (next, rest) ← expression? depth budget (c :: rest)
          if closing = '}' ∧ next.isFixed = false then none
          else
            match rest with
            | [] => none
            | d :: after =>
              if d = closing then
                return (other (closing = ')' && fixed && next.isFixed), after)
              else members? depth closing budget (fixed && next.isFixed) rest
    | _ => none
termination_by structural budget => budget

/-- The value of a field and the further fields, up to the bracket. -/
def fields? (depth : Nat) : Nat → List Char → Option (Literal × List Char)
  | 0, _ => none
  | budget + 1, input => do
    let (_, rest) ← expression? depth budget (skip true input)
    match rest with
    | '}' :: rest => return (other false, rest)
    | ',' :: rest =>
      match skip true rest with
      | '}' :: rest => return (other false, rest)
      | rest => do
        let (key, rest) ← expression? depth budget rest
        if key.isFixed = false then none
        else
          match rest with
          | ':' :: rest => fields? depth budget rest
          | _ => none
    | _ => none
termination_by structural budget => budget

end

/-- Whether nothing but blanks, comments and line ends is left. -/
def isOver (rest : List Char) : Bool :=
  (skip true rest).isEmpty

/-- Whether literals with commas between them make up a text. -/
def areLiterals : Nat → List Char → Bool
  | 0, _ => false
  | budget + 1, input =>
    match expression? 0 (5 * input.length + 5) input with
    | none => false
    | some (_, ',' :: rest) =>
      let rest := skip false rest
      isOver rest || areLiterals budget rest
    | some (_, rest) => isOver rest

/-- Whether a text is a literal, or several with commas between them. -/
def isLiteral (text : List Char) : Bool :=
  if '\x00' ∈ text then false
  else
    match firstLine? false (unifyLineEnds text) with
    | none => false
    | some text => areLiterals (text.length + 1) text

end Literal

end TapeMachine.Console
