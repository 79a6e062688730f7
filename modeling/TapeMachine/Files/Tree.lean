import TapeMachine.Files.Path
import TapeMachine.Text.Utf8

namespace TapeMachine.Files

open Text

inductive Problem where
  | notFound
  | exists
  | notDirectory
  | isDirectory
  | nameTooLong
  | nullCharacter
  deriving DecidableEq, Repr

/-- What a request to the file system was refused for. -/
structure Error where
  problem : Problem
  path : String
  deriving DecidableEq, Repr

def Problem.message : Problem → String
  | notFound => "[Errno 2] No such file or directory"
  | «exists» => "[Errno 17] File exists"
  | notDirectory => "[Errno 20] Not a directory"
  | isDirectory => "[Errno 21] Is a directory"
  | nameTooLong => "[Errno 36] File name too long"
  | nullCharacter => "embedded null byte"

def Error.message (error : Error) : String :=
  match error.problem with
  | .nullCharacter => Problem.nullCharacter.message
  | problem => problem.message ++ ": " ++ String.ofList (quoted error.path.toList)

inductive Node where
  | file (content : ByteArray)
  | directory

/-- Files are equal when their bytes are. -/
instance : DecidableEq Node
  | .file a, .file b =>
    if h : a.data = b.data then .isTrue (congrArg Node.file (ByteArray.ext h))
    else .isFalse fun same => h (congrArg ByteArray.data (Node.file.inj same))
  | .directory, .directory => .isTrue rfl
  | .file _, .directory => .isFalse nofun
  | .directory, .file _ => .isFalse nofun

/-- A place is the list of names that lead to it from the root. -/
abbrev Place := List String

/-- The files and directories below a root, which is a directory itself. -/
structure Tree where
  nodes : List (Place × Node) := []
  deriving DecidableEq

namespace Tree

def node? (tree : Tree) : Place → Option Node
  | [] => some .directory
  | place => tree.nodes.lookup place

def replace (place : Place) (node : Node) : List (Place × Node) → List (Place × Node)
  | [] => [(place, node)]
  | entry :: rest =>
    if entry.1 = place then (place, node) :: rest else entry :: replace place node rest

def set (tree : Tree) (place : Place) (node : Node) : Tree :=
  ⟨replace place node tree.nodes⟩

theorem lookup_replace_self (place : Place) (node : Node) (nodes : List (Place × Node)) :
    (replace place node nodes).lookup place = some node := by
  induction nodes with
  | nil => simp [replace]
  | cons entry rest ih =>
    obtain ⟨name, old⟩ := entry
    unfold replace
    split
    next => simp
    next h =>
      rw [List.lookup_cons, beq_eq_false_iff_ne.mpr (Ne.symm h)]
      exact ih

theorem lookup_replace_of_ne {place other : Place} (h : other ≠ place) (node : Node)
    (nodes : List (Place × Node)) :
    (replace place node nodes).lookup other = nodes.lookup other := by
  induction nodes with
  | nil => simp [replace, List.lookup_cons, beq_eq_false_iff_ne.mpr h]
  | cons entry rest ih =>
    obtain ⟨name, old⟩ := entry
    unfold replace
    split
    next same =>
      have same : name = place := same
      subst same
      simp [List.lookup_cons, beq_eq_false_iff_ne.mpr h]
    next =>
      simp only [List.lookup_cons]
      rw [ih]

theorem node?_set_self (tree : Tree) {place : Place} (h : place ≠ []) (node : Node) :
    (tree.set place node).node? place = some node := by
  obtain ⟨name, names, rfl⟩ := List.exists_cons_of_ne_nil h
  exact lookup_replace_self _ node tree.nodes

theorem node?_set_of_ne (tree : Tree) {place other : Place} (h : other ≠ place) (node : Node) :
    (tree.set place node).node? other = tree.node? other := by
  cases other with
  | nil => rfl
  | cons name names => exact lookup_replace_of_ne h node tree.nodes

/-- How many bytes a name may have. -/
def maxNameSize : Nat := 255

/-- How many bytes a path may have. -/
def maxPathSize : Nat := 4095

/-- What keeps a text from being the path of anything. -/
def flaw? (path : String) : Option Problem :=
  if '\x00' ∈ path.toList then some .nullCharacter
  else if path = "" then some .notFound
  else if maxPathSize < path.utf8ByteSize then some .nameTooLong
  else none

/-- Follows parts from a place; all but the last must be directories. -/
def walk (tree : Tree) (place : Place) : List String → Except Problem Place
  | [] => .ok place
  | part :: rest =>
    match tree.node? place with
    | none => .error .notFound
    | some (.file _) => .error .notDirectory
    | some .directory =>
      if part = "" ∨ part = "." then walk tree place rest
      else if part = ".." then walk tree place.dropLast rest
      else if maxNameSize < part.utf8ByteSize then .error .nameTooLong
      else walk tree (place ++ [part]) rest

/-- Whether a path insists on a directory, as one with a separator at its end does. -/
def insists (path : String) : Bool :=
  (parts path).getLast? == some ""

/-- The parts of a path without the empty ones at its end. -/
def way (path : String) : List String :=
  ((parts path).reverse.dropWhile (· = "")).reverse

/-- The place that a path names, and whether it insists on a directory. -/
def resolve (tree : Tree) (path : String) : Except Problem (Place × Bool) :=
  match flaw? path with
  | some problem => .error problem
  | none => (tree.walk [] (way path)).map (·, insists path)

def found? (tree : Tree) (path : String) : Option Node :=
  match tree.resolve path with
  | .error _ => none
  | .ok (place, insists) =>
    match tree.node? place with
    | some (.file content) => if insists then none else some (.file content)
    | other => other

def pathExists (tree : Tree) (path : String) : Bool :=
  (tree.found? path).isSome

/-- Like `pathExists`, except that a name too long to be looked up is an error. -/
def lookedUp (tree : Tree) (path : String) : Except Error Bool :=
  match tree.resolve path with
  | .error .nameTooLong => .error ⟨.nameTooLong, path⟩
  | _ => .ok (tree.pathExists path)

def hasDirectory (tree : Tree) (path : String) : Bool :=
  tree.found? path = some .directory

def readBytes (tree : Tree) (path : String) : Except Error ByteArray :=
  match tree.resolve path with
  | .error problem => .error ⟨problem, path⟩
  | .ok (place, insists) =>
    match tree.node? place with
    | none => .error ⟨.notFound, path⟩
    | some .directory => .error ⟨.isDirectory, path⟩
    | some (.file content) => if insists then .error ⟨.notDirectory, path⟩ else .ok content

/-- What keeps a path that insists on a directory from being written to. Its last name is not even
looked at. -/
def trailingProblem (tree : Tree) (path : String) : Problem :=
  match tree.walk [] (way path).dropLast with
  | .error problem => problem
  | .ok place =>
    match tree.node? place with
    | none => .notFound
    | some (.file _) => .notDirectory
    | some .directory => .isDirectory

/-- The place of a file to be written, and what it holds. -/
def target (tree : Tree) (path : String) : Except Error (Place × ByteArray) :=
  if flaw? path = none ∧ insists path then .error ⟨tree.trailingProblem path, path⟩
  else
    match tree.resolve path with
    | .error problem => .error ⟨problem, path⟩
    | .ok (place, _) =>
      match tree.node? place with
      | some .directory => .error ⟨.isDirectory, path⟩
      | none => .ok (place, .empty)
      | some (.file content) => .ok (place, content)

/-- Gives a file new content. -/
def write (tree : Tree) (path text : String) : Except Error Tree :=
  (tree.target path).map fun (place, _) => tree.set place (.file text.toUTF8)

/-- Adds to the end of a file, which need not be there. -/
def append (tree : Tree) (path text : String) : Except Error Tree :=
  (tree.target path).map fun (place, content) =>
    tree.set place (.file (content ++ text.toUTF8))

def makeDirectory (tree : Tree) (path : String) : Except Error Tree :=
  match tree.resolve path with
  | .error problem => .error ⟨problem, path⟩
  | .ok (place, _) =>
    match tree.node? place with
    | some _ => .error ⟨.exists, path⟩
    | none => .ok (tree.set place .directory)

/-- The paths above a path, the shortest first, none with a separator at its end. -/
def above (path : String) : List String :=
  let parts := parts path
  let heads := ((List.range parts.length).drop 1).map fun i => parts.take i
  (heads.filter fun head => head.getLast? ≠ some "").map join

/-- Makes the directories of a list in order; those that are there are left alone. -/
def makeMissing (tree : Tree) : List String → Tree × Option Error
  | [] => (tree, none)
  | path :: rest =>
    if tree.pathExists path then makeMissing tree rest
    else
      match tree.makeDirectory path with
      | .ok tree => makeMissing tree rest
      | .error error => (tree, some error)

/-- Makes a directory and those above it; one that is there already will do. Those made before a
refusal stay. -/
def makeDirectories (tree : Tree) (path : String) : Tree × Option Error :=
  match tree.makeMissing (above path) with
  | (tree, some error) => (tree, some error)
  | (tree, none) =>
    match tree.makeDirectory path with
    | .ok tree => (tree, none)
    | .error error => (tree, if tree.hasDirectory path then none else some error)

/-- Like `makeDirectories`, except that nothing at all is made for a text that is no path. -/
def makeWholeWay (tree : Tree) (path : String) : Tree × Option Error :=
  match flaw? path with
  | some problem => (tree, some ⟨problem, path⟩)
  | none => tree.makeDirectories path

/-- The names in a directory. -/
def names (tree : Tree) (place : Place) : List String :=
  tree.nodes.filterMap fun (other, _) =>
    match other.getLast? with
    | some name => if other.dropLast = place then some name else none
    | none => none

end Tree

/-- Why a file gave no text. -/
inductive ReadError where
  | refused (error : Error)
  | undecodable (error : Utf8Error)
  deriving DecidableEq, Repr

/-- The text of a file, its line ends unified. -/
def Tree.readText (tree : Tree) (path : String) : Except ReadError String :=
  match tree.readBytes path with
  | .error error => .error (.refused error)
  | .ok bytes =>
    match decode bytes with
    | .error error => .error (.undecodable error)
    | .ok text => .ok (String.ofList (unifyLineEnds text.toList))

end TapeMachine.Files
