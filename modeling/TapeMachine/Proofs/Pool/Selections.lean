import TapeMachine.PoolBuilder
import TapeMachine.Proofs.Console.Untouched
import TapeMachine.Proofs.Grouping
import TapeMachine.Proofs.Session.Stages

namespace TapeMachine.PoolBuilder

open Console DeskTask

variable {builder next : PoolBuilder} {line : String} {desk now : Desk} {programs : List String}

/-- What is asked for after a line. -/
def asked : PoolQuery → String → PoolQuery
  | .choice, line =>
    match choiceAnswer? choices "5" line with
    | some "2" => .path
    | some "3" => .confirmAll
    | _ => .choice
  | .path, _ => .choice
  | .confirmAll, line => if yesNoAnswer? false line = none then .confirmAll else .choice

/-- The programs that a line offers: one by its path, or all of them. -/
def offered (programs : List String) : PoolQuery → String → List String
  | .choice, _ => []
  | .path, line => [textAnswer none line].filter (· ∈ programs)
  | .confirmAll, line => if yesNoAnswer? false line = some true then programs else []

/-- The programs that lines offer, in that order, those offered before among them. -/
def offers (programs : List String) : PoolQuery → List String → List String
  | _, [] => []
  | query, line :: lines =>
    offered programs query line ++ offers programs (asked query line) lines

/-- What lines select out of some programs: each program once, in the order in which they were
first offered, and all programs once the user has agreed to add all. -/
structure Selection (programs lines selected : List String) : Prop where
  nodup : selected.Nodup
  collected : ∀ program ∈ selected, program ∈ programs
  first_order : FirstOrder (offers programs .choice lines) selected
  complete : ∀ before line rest, lines = before ++ line :: rest →
    before.foldl asked .choice = .confirmAll → yesNoAnswer? false line = some true →
      ∀ program ∈ programs, program ∈ selected

/-- A selection with more programs, but for those that are in it. -/
def extended (selected more : List String) : List String :=
  more.foldl
    (fun selected path => if path ∈ selected then selected else selected ++ [path]) selected

/-- The builder that waits after a line. -/
def heard (builder : PoolBuilder) (line : String) : PoolBuilder :=
  { builder with
    selected := extended builder.selected (offered builder.programs builder.query line)
    query := asked builder.query line }

theorem gives_toMenu (builder : PoolBuilder) :
    builder.toMenu.Gives (· = .asking { builder with query := .choice }) :=
  gives_bind fun _ => gives_bind fun _ => gives_pure rfl

theorem gives_save (builder : PoolBuilder) : builder.save.Gives (· = .ended none) := by
  unfold save
  split
  next => exact gives_bind fun _ => gives_pure rfl
  next => exact gives_bind fun _ => gives_pure rfl

/-- Nothing is offered at the menu. -/
theorem heard_choice (h : builder.query = .choice) (line : String) :
    builder.heard line = { builder with query := asked .choice line } := by
  rw [heard, h, offered]
  rfl

theorem gives_choose (h : builder.query = .choice) {choice : String}
    (hl : choiceAnswer? choices "5" line = some choice) :
    (builder.choose choice).Gives fun stage =>
      ∀ next, stage = .asking next → next = builder.heard line := by
  rw [heard_choice h, asked, hl]
  unfold choose
  split
  next =>
    refine gives_bind fun _ => gives_bind fun _ => gives_bind fun _ => ?_
    exact (gives_toMenu builder).mono fun stage hs next hn => Stage.asking.inj (hn.symm.trans hs)
  next => exact gives_pure fun next hn => (Stage.asking.inj hn).symm
  next => exact gives_pure fun next hn => (Stage.asking.inj hn).symm
  next => exact (gives_save builder).mono fun stage hs next hn => nomatch hn.symm.trans hs
  next => exact gives_bind fun _ => gives_pure nofun

end TapeMachine.PoolBuilder
