import TapeMachine.Files.Tree

namespace TapeMachine.Files

/-- One element of a file name pattern. -/
inductive Glyph where
  | char (c : Char)
  | any
  | many
  | range (negated : Bool) (choices : List (Char × Char))
  deriving DecidableEq, Repr

/-- The parts of a bracket between the hyphens that stand for spans. Such a hyphen has something
after it and at least `front` characters before it in its part. -/
def spanParts (front : Nat) : List Char → List (List Char)
  | [] => [[]]
  | c :: rest =>
    if front = 0 ∧ c = '-' ∧ rest ≠ [] then [] :: spanParts 2 rest
    else Text.consLine c (spanParts (front - 1) rest)

/-- Two parts, as one without the ends that meet if the span between them would hold nothing. -/
def joinParts (part next : List Char) (later : List (List Char)) : List (List Char) :=
  match part.getLast?, next.head? with
  | some a, some b =>
    if b < a then (part.dropLast ++ next.tail) :: later else part :: next :: later
  | _, _ => part :: next :: later

/-- Parts without the spans that hold nothing, the last of them removed first. -/
def withoutEmptySpans : List (List Char) → List (List Char)
  | [] => []
  | part :: rest =>
    match withoutEmptySpans rest with
    | [] => [part]
    | next :: later => joinParts part next later

/-- The choices of a bracket, where `none` is the hyphen of a span: single characters, and spans of
two. A hyphen without a character before it stands for itself. -/
def choices : List (Option Char) → List (Char × Char)
  | [] => []
  | some a :: none :: some b :: rest => (a, b) :: choices rest
  | some a :: rest => (a, a) :: choices rest
  | none :: rest => ('-', '-') :: choices rest

/-- What a bracket chooses from; an exclamation mark at its front takes all other characters. -/
def rangeOf (front : Nat) (content : List Char) : Glyph :=
  let parts := withoutEmptySpans (spanParts front content)
  match [none].intercalate (parts.map (·.map some)) with
  | some '!' :: rest => .range true (choices rest)
  | signs => .range false (choices signs)

/-- How many characters at the front of a bracket neither close nor part it. -/
def frontSize (text : List Char) : Nat :=
  if text.head? = some '!' then 2 else 1

/-- A bracket after its opening, and the rest. A closing bracket at its front is one of the
choices. -/
def bracket? (text : List Char) : Option (Glyph × List Char) :=
  let front := frontSize text
  let rest := text.drop front
  if ']' ∈ rest then
    some (rangeOf front (text.take front ++ rest.takeWhile (· ≠ ']')),
      (rest.dropWhile (· ≠ ']')).tail)
  else none

theorem bracket?_length {text rest : List Char} {glyph : Glyph}
    (h : bracket? text = some (glyph, rest)) : rest.length ≤ text.length := by
  have shorter (body : List Char) : ((body.dropWhile (· ≠ ']')).tail).length ≤ body.length := by
    rw [List.length_tail]
    exact Nat.le_trans (Nat.sub_le _ _) (List.dropWhile_sublist _).length_le
  unfold bracket? at h
  simp only at h
  split at h
  next =>
    cases h
    exact Nat.le_trans (shorter _) (List.drop_sublist _ _).length_le
  next => cases h

def glyphs : List Char → List Glyph
  | [] => []
  | '*' :: rest => .many :: glyphs rest
  | '?' :: rest => .any :: glyphs rest
  | '[' :: rest =>
    match h : bracket? rest with
    | some (glyph, rest') =>
      have := bracket?_length h
      glyph :: glyphs rest'
    | none => .char '[' :: glyphs rest
  | c :: rest => .char c :: glyphs rest
termination_by text => text.length

def Glyph.accepts (c : Char) : Glyph → Bool
  | char d => c == d
  | any => true
  | many => false
  | range negated choices => choices.any (fun (a, b) => a ≤ c && c ≤ b) != negated

/-- For each end of a name whether some end of that one has the property listed for it. -/
def someEnd : List Bool → List Bool
  | [] => []
  | here :: later =>
    let later := someEnd later
    (here || later.headD false) :: later

/-- For each end of a name, the whole one first and the empty one last, whether it is an instance of
a pattern. -/
def fittingEnds (name : List Char) : List Glyph → List Bool
  | [] => name.map (fun _ => false) ++ [true]
  | .many :: rest => someEnd (fittingEnds name rest)
  | glyph :: rest =>
    name.zipWith (fun c fits => glyph.accepts c && fits) (fittingEnds name rest).tail ++ [false]

/-- Whether a name is an instance of a pattern. -/
def fits (pattern : List Glyph) (name : List Char) : Bool :=
  (fittingEnds name pattern).headD false

def hasWildcard (part : String) : Bool :=
  part.toList.any fun c => c == '*' || c == '?' || c == '['

def Tree.isDirectoryAt (tree : Tree) (place : Place) : Bool :=
  tree.node? place = some .directory

/-- A directory and all directories inside it. -/
def Tree.directoriesFrom (tree : Tree) (place : Place) : List Place :=
  place :: (tree.nodes.filterMap fun (other, node) =>
    if node = .directory ∧ place.isPrefixOf other ∧ other ≠ place then some other else none)

/-- The names in a directory that a part of a pattern describes. -/
def Tree.named (tree : Tree) (place : Place) (part : String) : Except Error (List String) :=
  if hasWildcard part then
    .ok ((tree.names place).filter fun name => fits (glyphs part.toList) name.toList)
  else if Tree.maxNameSize < part.utf8ByteSize then .error ⟨.nameTooLong, part⟩
  else .ok ((tree.names place).filter (· = part))

/-- The ways down from a place that the parts of a pattern describe. An empty part asks for a
directory. -/
def Tree.select (tree : Tree) (place : Place) : List String → Except Error (List (List String))
  | [] => .ok [[]]
  | part :: rest => do
    if tree.isDirectoryAt place = false then return []
    else if part = "" then tree.select place rest
    else if part = "**" then
      let ways ← (tree.directoriesFrom place).mapM fun inner => do
        return (← tree.select inner rest).map (inner.drop place.length ++ ·)
      return ways.flatten
    else if part = ".." then return (← tree.select place.dropLast rest).map (part :: ·)
    else
      let ways ← (← tree.named place part).mapM fun name => do
        return (← tree.select (place ++ [name]) rest).map (name :: ·)
      return ways.flatten

/-- The parts of a pattern, with an empty one where it ends in a separator. -/
def patternParts (pattern : String) : List String :=
  properParts pattern ++ if pattern.toList.getLast? = some '/' then [""] else []

/-- Whether a part of a pattern crosses directories and does more. -/
def mixesLevels (part : String) : Bool :=
  part ≠ "**" && Text.occursIn ['*', '*'] part.toList

/-- Why a text is no pattern. -/
inductive PatternError where
  | empty
  | absolute
  | mixedLevels
  | nowhere
  | onlyHere
  deriving DecidableEq, Repr

def PatternError.message : PatternError → String
  | empty => "Unacceptable pattern: ''"
  | absolute => "Non-relative patterns are unsupported"
  | mixedLevels => "Invalid pattern: '**' can only be an entire path component"
  | nowhere => "a pattern without a part leads nowhere"
  | onlyHere => "a pattern must lead further than to its own directory"

def readPattern (pattern : String) : Except PatternError (List String) :=
  let parts := patternParts pattern
  if pattern = "" then .error .empty
  else if isAbsolute pattern then .error .absolute
  else if parts.any mixesLevels then .error .mixedLevels
  else if parts = [] then .error .nowhere
  else if parts = [""] then .error .onlyHere
  else .ok parts

end TapeMachine.Files
