import TapeMachine.Proofs.Source.Extraction

namespace TapeMachine.Source

open Text

variable {text part value key : List Char} {options : Options}

/-- What a reading can ask for in vain. -/
inductive Absent where
  | character
  | word
  | move
  deriving DecidableEq, Repr

def firstCharacterStrictly : List Char → Except Absent Char
  | [] => .error .character
  | c :: _ => .ok c

def firstWordStrictly (text : List Char) : Except Absent (List Char) :=
  match firstWord text with
  | [] => .error .word
  | word => .ok word

def moveStrictly : List Char → Except Absent Move
  | [letter] =>
    match Move.ofLetter? letter with
    | some move => .ok move
    | none => .error .move
  | _ => .error .move

def moveKeys : List (List Char) :=
  [['L'], ['R'], ['N']]

/-- The options after one more part, the first write and the first move being kept. -/
def Options.takeStrictly (options : Options) (part : List Char) : Except Absent Options :=
  match atColon part with
  | (_, none) => return options
  | (key, some value) =>
    if trim value = [] then return options
    else if trim key = "write".toList ∧ options.write = none then
      return { options with write := some (unquote (trim value)) }
    else if trim key ∈ moveKeys ∧ options.step = none then do
      let move ← moveStrictly (trim key)
      let target ← firstWordStrictly (trim value)
      return { options with step := some (move, target) }
    else return options

def Options.readStrictly (text : List Char) : Except Absent Options :=
  (split ',' (optionBody text)).foldlM Options.takeStrictly ⟨none, none⟩

/-- Unless it opens a list, the first character of a line tells how its symbol is written. -/
def splitSymbolsStrictly (line : List Char) :
    Except Absent (Except Reason (List (List Char) × List Char)) :=
  if line.head? = some '[' then return splitSymbols line
  else do
    let _ ← firstCharacterStrictly line
    return splitSymbols line

def RuleLine.readStrictly (line : List Char) : Except Absent (Except Reason RuleLine) := do
  match ← splitSymbolsStrictly line with
  | .error reason => return .error reason
  | .ok (symbols, text) =>
    let options ← Options.readStrictly text
    match options.step with
    | none => return .error .noMove
    | some (move, target) => return .ok ⟨symbols, options.write, move, target⟩

/-- The effect of a line that is not empty. A rule is read in the block of a state only. -/
def Draft.addStrictly (draft : Draft) (number : Nat) (text : List Char) : Except Absent Draft :=
  match Line.read text, draft.current with
  | .rule _, some state => do
    match ← RuleLine.readStrictly text with
    | .error reason => return draft.warn number text reason
    | .ok rule => return draft.accept number text state rule
  | _, _ => return draft.add number text

def Draft.addLineStrictly (draft : Draft) (numbered : List Char × Nat) : Except Absent Draft :=
  match Draft.content numbered.1 with
  | [] => return draft
  | text => draft.addStrictly numbered.2 text

/-- Reads a program as `Program.ofText` does, but fails where something is asked for that is not
there. -/
def Program.ofTextStrictly (text : String) : Except Absent Program := do
  let draft ← ((lines text.toList).zipIdx 1).foldlM Draft.addLineStrictly {}
  return draft.program

theorem firstWordStrictly_trim (h : trim value ≠ []) :
    firstWordStrictly (trim value) = .ok (firstWord (trim value)) := by
  unfold firstWordStrictly
  split
  next hw => exact absurd hw (firstWord_trim h).2
  next => rfl

theorem moveStrictly_letter (move : Move) : moveStrictly [move.letter] = .ok move := by
  simp [moveStrictly, Move.ofLetter?_letter]

theorem mem_moveKeys_iff : key ∈ moveKeys ↔ ∃ move : Move, key = [move.letter] := by
  constructor
  · intro h
    simp only [moveKeys, List.mem_cons, List.not_mem_nil, or_false] at h
    rcases h with rfl | rfl | rfl
    · exact ⟨.left, rfl⟩
    · exact ⟨.right, rfl⟩
    · exact ⟨.stay, rfl⟩
  · rintro ⟨move, rfl⟩
    cases move <;> decide

/-- The options with what a clause adds to them. -/
def Options.with (options : Options) : Option Clause → Options
  | none => options
  | some (.write symbol) => { options with write := options.write.or (some symbol) }
  | some (.go move target) => { options with step := options.step.or (some (move, target)) }

/-- A write that comes after another is taken for a move, and is none. -/
theorem takeStrictly_eq (options : Options) (part : List Char) :
    options.takeStrictly part = .ok (options.with (Clause.read? part)) := by
  obtain ⟨write, step⟩ := options
  obtain ⟨hn, ha⟩ | ⟨key, value, rfl, hk, ha⟩ := atColon_cases part
  · rw [Options.takeStrictly, ha, read?_of_no_colon hn]
    rfl
  rw [Options.takeStrictly, ha]
  by_cases hv : trim value = []
  · simp only [if_pos hv, read?_of_colon hk]
    rfl
  simp only [if_neg hv]
  by_cases hw : trim key = "write".toList
  · have hn : trim key ∉ moveKeys := by
      rw [hw]
      decide
    rw [read?_of_colon hk, if_neg hv, if_pos hw]
    cases write with
    | none =>
      rw [if_pos ⟨hw, rfl⟩]
      rfl
    | some written =>
      rw [if_neg (fun h => Option.some_ne_none written h.2), if_neg (fun h => hn h.1)]
      rfl
  rw [if_neg (fun h => hw h.1)]
  by_cases hm : trim key ∈ moveKeys
  · obtain ⟨move, hl⟩ := mem_moveKeys_iff.mp hm
    rw [read?_of_move_key hk hl hv]
    cases step with
    | none =>
      rw [if_pos ⟨hm, rfl⟩, hl, moveStrictly_letter, firstWordStrictly_trim hv]
      rfl
    | some other =>
      rw [if_neg (fun h => Option.some_ne_none other h.2)]
      rfl
  · have hother : ∀ move : Move, trim key ≠ [move.letter] := fun move he =>
      hm (mem_moveKeys_iff.mpr ⟨move, he⟩)
    rw [if_neg (fun h => hm h.1), read?_of_other_key hk hw hother]
    rfl

/-- The first of the clauses that write is kept, and the first of those that move. -/
theorem foldlM_takeStrictly (parts : List (List Char)) (options : Options) :
    parts.foldlM Options.takeStrictly options =
      .ok
        ⟨options.write.or ((parts.filterMap Clause.read?).findSome? Clause.written?),
          options.step.or ((parts.filterMap Clause.read?).findSome? Clause.step?)⟩ := by
  induction parts generalizing options with
  | nil => simp [pure, Except.pure]
  | cons part parts ih =>
    rw [List.foldlM_cons, takeStrictly_eq]
    change parts.foldlM Options.takeStrictly (options.with (Clause.read? part)) = _
    rw [ih, List.filterMap_cons]
    cases Clause.read? part with
    | none => rfl
    | some clause =>
      cases clause with
      | write symbol => simp [Options.with, List.findSome?_cons, Clause.written?, Clause.step?]
      | go move target => simp [Options.with, List.findSome?_cons, Clause.written?, Clause.step?]

theorem Options.readStrictly_eq (text : List Char) :
    Options.readStrictly text = .ok (Options.read text) := by
  rw [Options.readStrictly, foldlM_takeStrictly]
  rfl

theorem splitSymbolsStrictly_eq (h : text ≠ []) :
    splitSymbolsStrictly text = .ok (splitSymbols text) := by
  obtain ⟨c, rest, rfl⟩ := List.exists_cons_of_ne_nil h
  unfold splitSymbolsStrictly
  split <;> rfl

theorem RuleLine.readStrictly_eq (h : text ≠ []) :
    RuleLine.readStrictly text = .ok (RuleLine.read text) := by
  rw [RuleLine.readStrictly, RuleLine.read, splitSymbolsStrictly_eq h]
  cases splitSymbols text with
  | error reason => rfl
  | ok parts =>
    obtain ⟨symbols, options⟩ := parts
    simp only [bind, Except.bind, Options.readStrictly_eq]
    cases (Options.read options).step with
    | none => rfl
    | some step => rfl

example : RuleLine.readStrictly [] = .error .character := rfl

theorem addStrictly_eq (draft : Draft) (number : Nat) (h : text ≠ []) :
    draft.addStrictly number text = .ok (draft.add number text) := by
  have ht := read_tells text
  unfold Draft.addStrictly
  split
  next body state hr hc =>
    rw [hr] at ht
    have hb : body = RuleLine.read text := ht
    rw [RuleLine.readStrictly_eq h, Draft.add, hr, hc, hb]
    cases RuleLine.read text with
    | error reason => rfl
    | ok rule => rfl
  next => rfl

theorem addLineStrictly_eq (draft : Draft) (numbered : List Char × Nat) :
    draft.addLineStrictly numbered = .ok (draft.addLine numbered) := by
  unfold Draft.addLineStrictly Draft.addLine
  cases hc : Draft.content numbered.1 with
  | nil => rfl
  | cons c rest => exact addStrictly_eq draft numbered.2 (List.cons_ne_nil c rest)

theorem foldlM_addLineStrictly (numbered : List (List Char × Nat)) (draft : Draft) :
    numbered.foldlM Draft.addLineStrictly draft = .ok (numbered.foldl Draft.addLine draft) := by
  induction numbered generalizing draft with
  | nil => rfl
  | cons line numbered ih =>
    rw [List.foldlM_cons, addLineStrictly_eq, List.foldl_cons]
    exact ih (draft.addLine line)

/-- Nothing is asked for in vain, whatever the text. -/
theorem ofTextStrictly_eq (text : String) :
    Program.ofTextStrictly text = .ok (Program.ofText text) := by
  rw [Program.ofTextStrictly, foldlM_addLineStrictly]
  rfl

end TapeMachine.Source
