import TapeMachine.Dictionary
import TapeMachine.Text.Numeral

namespace TapeMachine.Console

open Text

/-- What follows an option. -/
inductive OptionKind where
  | switch
  | text
  | integer
  deriving DecidableEq, Repr

/-- An option of a tool; its name begins with two hyphens. -/
structure OptionSpec where
  name : String
  kind : OptionKind
  required : Bool := false
  deriving DecidableEq, Repr

/-- The value of an option. A separator in the place of a value leaves it out. -/
inductive OptionValue where
  | on
  | text (text : String)
  | integer (n : Int)
  | leftOut
  deriving DecidableEq, Repr

/-- Why a tool does not start: it was asked for help, or misused. -/
inductive Refusal where
  | help
  | misuse
  deriving DecidableEq, Repr

/-- The exit code of a refusal. -/
def Refusal.code : Refusal → Int
  | help => 0
  | misuse => 2

abbrev Options := Dictionary String OptionValue

namespace Options

def isOn (options : Options) (name : String) : Bool :=
  (options.get? name).isSome

def text? (options : Options) (name : String) : Option String :=
  match options.get? name with
  | some (.text text) => some text
  | _ => none

def integer? (options : Options) (name : String) : Option Int :=
  match options.get? name with
  | some (.integer n) => some n
  | _ => none

end Options

/-- A word of a command line. -/
inductive Word where
  | plain (text : String)
  | separator
  | unknown
  | helpShort (rest : Option (List Char))
  | helpLong (value : Option String)
  | named (spec : OptionSpec) (value : Option String)

/-- A number below zero is no option. -/
def isNegativeNumber (word : List Char) : Bool :=
  let isDigit (c : Char) := (digit? c).isSome
  let body (text : List Char) :=
    match text.dropWhile isDigit with
    | [] => text ≠ []
    | '.' :: places => places ≠ [] && places.all isDigit
    | _ => false
  match word with
  | '-' :: text => body (if text.getLast? = some '\n' then text.dropLast else text)
  | _ => false

/-- The text before the first equality sign, and what follows it. -/
def cutAtEquals (word : List Char) : List Char × Option (List Char) :=
  match word.dropWhile (· ≠ '=') with
  | [] => (word, none)
  | _ :: rest => (word.takeWhile (· ≠ '='), some rest)

/-- An option or the request for help, by its full name. -/
def byName? (specs : List OptionSpec) (name : List Char) (value : Option (List Char)) :
    Option Word :=
  if name = "-h".toList then some (.helpShort value)
  else if name = "--help".toList then some (.helpLong (value.map String.ofList))
  else (specs.find? fun spec => spec.name.toList = name).map fun spec =>
    .named spec (value.map String.ofList)

/-- The options whose names begin as a word does. -/
def abbreviated (specs : List OptionSpec) (name : List Char) (value : Option (List Char)) :
    List Word :=
  let names := "--help" :: specs.map OptionSpec.name
  (names.filter fun full => name.isPrefixOf full.toList).filterMap fun full =>
    byName? specs full.toList value

/-- What a word that is no option by name may be. -/
def otherWord (word : List Char) : Word :=
  if isNegativeNumber word ∨ ' ' ∈ word then .plain (String.ofList word) else .unknown

/-- An option may be shortened as long as no other begins alike. -/
def readHyphened (specs : List OptionSpec) (word : List Char) : Except Refusal Word :=
  let (name, value) := cutAtEquals word
  match byName? specs word none <|> value.bind fun _ => byName? specs name value with
  | some found => .ok found
  | none =>
    match word with
    | '-' :: '-' :: _ =>
      match abbreviated specs name value with
      | [] => .ok (otherWord word)
      | [found] => .ok found
      | _ => .error .misuse
    | '-' :: 'h' :: rest => .ok (.helpShort (some rest))
    | _ => .ok (otherWord word)

def readWord (specs : List OptionSpec) (word : String) : Except Refusal Word :=
  match word.toList with
  | '-' :: c :: rest => readHyphened specs ('-' :: c :: rest)
  | _ => .ok (.plain word)

/-- The words of a command line; after a separator all are plain. -/
def readWords (specs : List OptionSpec) : List String → Except Refusal (List Word)
  | [] => .ok []
  | "--" :: rest => .ok (.separator :: rest.map .plain)
  | word :: rest => do return (← readWord specs word) :: (← readWords specs rest)

/-- Whether what follows a short request for help leaves it one: it may only be repeated. -/
def asksForHelp (rest : List Char) : Bool :=
  rest ≠ [] && rest.all (· = 'h')

/-- The value of an option that takes one. -/
def valueOf (kind : OptionKind) (text : String) : Except Refusal OptionValue :=
  match kind with
  | .switch => .error .misuse
  | .text => .ok (if text = "--" then .leftOut else .text text)
  | .integer =>
    if text = "--" then .ok .leftOut
    else
      match integer? text with
      | some n => .ok (.integer n)
      | none => .error .misuse

/-- Carries out words in order; whether one was left over. -/
def gather (options : Options) (extra : Bool) : List Word → Except Refusal (Options × Bool)
  | [] => .ok (options, extra)
  | .helpShort none :: _ => .error .help
  | .helpShort (some rest) :: _ => .error (if asksForHelp rest then .help else .misuse)
  | .helpLong none :: _ => .error .help
  | .helpLong (some _) :: _ => .error .misuse
  | .named spec (some text) :: rest => do
    gather (options.set spec.name (← valueOf spec.kind text)) extra rest
  | .named spec none :: rest =>
    if spec.kind = .switch then gather (options.set spec.name .on) extra rest
    else
      match rest with
      | .plain text :: rest => do
        gather (options.set spec.name (← valueOf spec.kind text)) extra rest
      | _ => .error .misuse
  | .plain _ :: rest => gather options true rest
  | .separator :: rest => gather options true rest
  | .unknown :: rest => gather options true rest

/-- Reads a command line. All required options must be there, and nothing else may be. -/
def Options.read (specs : List OptionSpec) (words : List String) : Except Refusal Options := do
  let (options, extra) ← gather [] false (← readWords specs words)
  if extra || specs.any fun spec => spec.required && !options.isOn spec.name then .error .misuse
  else .ok options

end TapeMachine.Console
