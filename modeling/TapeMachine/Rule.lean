import TapeMachine.Distinct

namespace TapeMachine

inductive Move where
  | left
  | right
  | stay
  deriving DecidableEq, Repr

def Move.letter : Move → Char
  | left => 'L'
  | right => 'R'
  | stay => 'N'

def Move.ofLetter? : Char → Option Move
  | 'L' => some left
  | 'R' => some right
  | 'N' => some stay
  | _ => none

theorem Move.ofLetter?_letter (move : Move) : ofLetter? move.letter = some move := by
  cases move <;> rfl

def sortSymbols (symbols : List String) : List String :=
  symbols.mergeSort fun a b => decide (a ≤ b)

/-- What a rule reads: one symbol, or any member of a collection. The members of a set are kept
sorted and distinct, so that two sets are equal when their members are. -/
inductive Pattern where
  | one (symbol : String)
  | list (symbols : List String)
  | set (symbols : List String)
  deriving DecidableEq, Repr

namespace Pattern

def ofMembers (symbols : List String) : Pattern :=
  set (sortSymbols (distinct symbols))

/-- The symbols read, a collection in sorted order. -/
def members : Pattern → List String
  | one symbol => [symbol]
  | list symbols => sortSymbols symbols
  | set symbols => sortSymbols symbols

def reads : Pattern → String → Bool
  | one symbol, a => symbol == a
  | list symbols, a => symbols.contains a
  | set symbols, a => symbols.contains a

def label : Pattern → String
  | one symbol => symbol
  | pattern => "[" ++ ",".intercalate pattern.members ++ "]"

theorem mem_members {pattern : Pattern} {a : String} :
    a ∈ pattern.members ↔ pattern.reads a = true := by
  cases pattern with
  | one symbol => simpa [members, reads] using eq_comm
  | list symbols => simp [members, reads, sortSymbols]
  | set symbols => simp [members, reads, sortSymbols]

end Pattern

/-- In state `source`, on a symbol that `read` covers: write, move, go to `target`. A rule that
writes nothing leaves the cell as it is. -/
structure Rule where
  source : String
  read : Pattern
  write : Option String
  move : Move
  target : String
  deriving DecidableEq, Repr

namespace Rule

def applies (rule : Rule) (state symbol : String) : Bool :=
  rule.source == state && rule.read.reads symbol

/-- The symbol left in a cell that held `symbol`. -/
def leaves (rule : Rule) (symbol : String) : String :=
  rule.write.getD symbol

/-- The text beside an arrow of the state graph. -/
def label (rule : Rule) : String :=
  rule.read.label ++ "→" ++ rule.write.getD rule.read.label ++ "," ++ rule.move.letter.toString

end Rule

end TapeMachine
