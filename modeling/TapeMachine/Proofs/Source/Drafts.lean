import TapeMachine.Proofs.Text.Lines
import TapeMachine.Source.Program

namespace TapeMachine.Source

open Text

variable {draft : Draft} {line : List Char} {number : Nat} {lines : List (List Char)}
variable {state blank : String} {current : Option String} {said rest : List Line}

/-- What a line says when its comment and outer blanks are gone. -/
def reading (line : List Char) : Line :=
  Line.read (Draft.content line)

/-- The rule that one symbol of a rule line stands for. -/
def RuleLine.meaning (blank state : String) (line : RuleLine) (symbol : List Char) : Rule :=
  let symbol := if symbol = [] then blank else String.ofList symbol
  let write := match line.write with
    | none => symbol
    | some [] => blank
    | some written => String.ofList written
  ⟨state, .one symbol, some write, line.move, String.ofList line.target⟩

/-- The rules that a line describes in the block of a state. -/
def Line.rules (blank state : String) : Line → List Rule
  | .rule (.ok line) => line.symbols.map (line.meaning blank state)
  | _ => []

theorem mem_rules {one : Line} {rule : Rule} (h : rule ∈ one.rules blank state) :
    ∃ line symbol, one = .rule (.ok line) ∧ symbol ∈ line.symbols ∧
      rule = line.meaning blank state symbol := by
  unfold Line.rules at h
  split at h
  next line =>
    obtain ⟨symbol, hs, he⟩ := List.mem_map.mp h
    exact ⟨line, symbol, rfl, hs, he.symm⟩
  next => simp at h

/-- The rules that lines describe, those that are overridden further down among them. -/
def rulesHeard (blank : String) : Option String → List Line → List Rule
  | _, [] => []
  | _, .header state :: rest => rulesHeard blank (some (String.ofList state)) rest
  | none, _ :: rest => rulesHeard blank none rest
  | some state, one :: rest => one.rules blank state ++ rulesHeard blank (some state) rest

theorem rule_accepted (blank : String) (number : Nat) (text : List Char) (state : String)
    (line : RuleLine) (symbol : List Char) :
    Accepted.rule blank
        { line := number
          text := String.ofList text
          state
          symbol := String.ofList symbol
          write := line.write.map String.ofList
          move := line.move
          target := String.ofList line.target } =
      line.meaning blank state symbol := by
  have hs : (if String.ofList symbol = "" then blank else String.ofList symbol) =
      if symbol = [] then blank else String.ofList symbol := by
    simp [← String.toList_inj]
  simp only [Accepted.rule, RuleLine.meaning, hs]
  cases line.write with
  | none => rfl
  | some written =>
    cases written with
    | nil => rfl
    | cons c tail =>
      have hw : String.ofList (c :: tail) ≠ "" := by simp [← String.toList_inj]
      congr 1
      split
      next h => simp at h
      next h => exact absurd (Option.some.inj h) hw
      next h => exact (h.symm : _)

theorem addLine_of_empty (h : Draft.content line = []) : draft.addLine (line, number) = draft := by
  rw [Draft.addLine, h]

theorem addLine_of_content (h : Draft.content line ≠ []) :
    draft.addLine (line, number) = draft.add number (Draft.content line) := by
  unfold Draft.addLine
  split
  next he => exact absurd he h
  next => rfl

/-- A line without content is read as one that nobody knows. -/
theorem reading_of_empty (h : Draft.content line = []) : reading line = .faulty .unrecognized := by
  rw [reading, h]
  rfl

theorem addLine_cases (draft : Draft) (line : List Char) (number : Nat) :
    (draft.addLine (line, number) = draft ∧ reading line = .faulty .unrecognized) ∨
      draft.addLine (line, number) = draft.add number (Draft.content line) := by
  by_cases h : Draft.content line = []
  · exact .inl ⟨addLine_of_empty h, reading_of_empty h⟩
  · exact .inr (addLine_of_content h)

theorem ofLines_concat (lines : List (List Char)) (line : List Char) :
    Draft.ofLines (lines ++ [line]) =
      (Draft.ofLines lines).addLine (line, lines.length + 1) := by
  simp [Draft.ofLines, List.zipIdx_append, List.foldl_append, Nat.add_comm]

theorem ofText_of_hasLines {text : String} (h : HasLines text lines) :
    Program.ofText text = Program.ofLines lines := by
  rw [Program.ofText]
  rcases h with rfl | rfl
  · rfl
  · rw [Program.ofLines, Program.ofLines, ofLines_concat]
    rfl

/-- What a line does to the parts of a draft of which the last word counts. -/
theorem addLine_fields (draft : Draft) (line : List Char) (number : Nat) :
    (draft.addLine (line, number)).current =
        (match reading line with
          | .header state => some (String.ofList state)
          | _ => draft.current) ∧
      (draft.addLine (line, number)).blank =
        (match reading line with
          | .blank symbol => symbol
          | _ => draft.blank) ∧
      (draft.addLine (line, number)).input =
        (match reading line with
          | .input value => value
          | _ => draft.input) ∧
      (draft.addLine (line, number)).initialState =
        (match reading line with
          | .start state => String.ofList state
          | _ => draft.initialState) := by
  obtain ⟨hd, hr⟩ | hd := addLine_cases draft line number
  · simp [hd, hr]
  · rw [hd, Draft.add, ← reading]
    cases reading line with
    | rule body => cases hc : draft.current <;> cases body <;> simp [Draft.warn, Draft.accept, hc]
    | _ => simp [Draft.warn]

theorem addLine_rules (blank : String) :
    (draft.addLine (line, number)).accepted.toList.map (Accepted.rule blank) =
      draft.accepted.toList.map (Accepted.rule blank) ++
        rulesHeard blank draft.current [reading line] := by
  obtain ⟨hd, hr⟩ | hd := addLine_cases draft line number
  · cases hc : draft.current <;> simp [hd, hr, rulesHeard, Line.rules]
  · rw [hd, Draft.add, ← reading]
    cases reading line with
    | rule body =>
      cases hc : draft.current with
      | none => simp [Draft.warn, rulesHeard]
      | some state =>
        cases body with
        | error reason => simp [Draft.warn, rulesHeard, Line.rules]
        | ok rule => simp [Draft.accept, rulesHeard, Line.rules, rule_accepted]
    | _ => cases hc : draft.current <;> simp [Draft.warn, rulesHeard, Line.rules]

theorem rulesHeard_cons (blank : String) (current : Option String) (one : Line)
    (rest : List Line) :
    rulesHeard blank current (one :: rest) =
      rulesHeard blank current [one] ++
        rulesHeard blank
          (match one with
            | .header state => some (String.ofList state)
            | _ => current) rest := by
  cases one with
  | header state => simp [rulesHeard]
  | _ => cases current <;> simp [rulesHeard]

/-- A draft gathers the rules of its lines in their order. -/
theorem foldl_addLine_rules (blank : String) (lines : List (List Char)) (draft : Draft)
    (number : Nat) :
    ((lines.zipIdx number).foldl Draft.addLine draft).accepted.toList.map (Accepted.rule blank) =
      draft.accepted.toList.map (Accepted.rule blank) ++
        rulesHeard blank draft.current (lines.map reading) := by
  induction lines generalizing draft number with
  | nil => simp [rulesHeard]
  | cons line lines ih =>
    rw [List.zipIdx_cons, List.foldl_cons, ih, addLine_rules,
      (addLine_fields draft line number).1, List.map_cons,
      rulesHeard_cons blank draft.current (reading line) (lines.map reading), List.append_assoc]

/-- A rule comes from a rule line below the header of its state. -/
theorem mem_rulesHeard {rule : Rule} (h : rule ∈ rulesHeard blank current said) :
    (current = some rule.source ∨ ∃ name, .header name ∈ said ∧ rule.source = String.ofList name) ∧
      ∃ line symbol, .rule (.ok line) ∈ said ∧ symbol ∈ line.symbols ∧
        rule = line.meaning blank rule.source symbol := by
  induction said generalizing current with
  | nil => simp [rulesHeard] at h
  | cons one rest ih =>
    rw [rulesHeard_cons] at h
    rcases List.mem_append.mp h with h | h
    · cases one with
      | rule body =>
        cases current with
        | none => simp [rulesHeard] at h
        | some state =>
          cases body with
          | error reason => simp [rulesHeard, Line.rules] at h
          | ok line =>
            simp only [rulesHeard, Line.rules, List.append_nil, List.mem_map] at h
            obtain ⟨symbol, hs, rfl⟩ := h
            exact ⟨.inl rfl, line, symbol, by simp, hs, rfl⟩
      | _ => cases current <;> simp [rulesHeard, Line.rules] at h
    · obtain ⟨hs, line, symbol, hl, hm⟩ := ih h
      refine ⟨?_, line, symbol, List.mem_cons_of_mem one hl, hm⟩
      rcases hs with hs | ⟨name, hn, he⟩
      · cases one with
        | header name => exact .inr ⟨name, by simp, (Option.some.inj hs).symm⟩
        | _ => exact .inl hs
      · exact .inr ⟨name, List.mem_cons_of_mem one hn, he⟩

/-- Up to the next header all lines are in the block of one state, or in none. -/
theorem rulesHeard_block (h : ∀ one ∈ said, ∀ name, one ≠ .header name) :
    rulesHeard blank current (said ++ rest) =
      (current.elim [] fun state => said.flatMap (Line.rules blank state)) ++
        rulesHeard blank current rest := by
  induction said with
  | nil => cases current <;> rfl
  | cons one said ih =>
    have hs := ih fun other ho => h other (List.mem_cons_of_mem one ho)
    cases one with
    | header name => exact absurd rfl (h _ (by simp) name)
    | _ => cases current <;> simpa [rulesHeard] using hs

/-- Where each line that says something takes the word from those before it, the last counts. -/
theorem foldl_addLine_last {β : Type} (field : Draft → β) (said? : Line → Option β)
    (hstep : ∀ (draft : Draft) (line : List Char) (number : Nat),
      field (draft.addLine (line, number)) = (said? (reading line)).getD (field draft))
    (lines : List (List Char)) (draft : Draft) (number : Nat) :
    field ((lines.zipIdx number).foldl Draft.addLine draft) =
      ((lines.map reading).filterMap said?).getLast?.getD (field draft) := by
  induction lines generalizing draft number with
  | nil => rfl
  | cons line lines ih =>
    rw [List.zipIdx_cons, List.foldl_cons, ih, hstep, List.map_cons, List.filterMap_cons]
    cases said? (reading line) with
    | none => rfl
    | some value => simp [List.getLast?_cons]

/-- What a draft holds it has from the start or from one of its lines. -/
theorem foldl_addLine_origin {β : Type} (field : Draft → β) (tells : β → Line → Prop)
    (hstep : ∀ (draft : Draft) (line : List Char) (number : Nat),
      field (draft.addLine (line, number)) = field draft ∨
        tells (field (draft.addLine (line, number))) (reading line))
    (lines : List (List Char)) (draft : Draft) (number : Nat) :
    field ((lines.zipIdx number).foldl Draft.addLine draft) = field draft ∨
      ∃ one ∈ lines.map reading,
        tells (field ((lines.zipIdx number).foldl Draft.addLine draft)) one := by
  induction lines generalizing draft number with
  | nil => exact .inl rfl
  | cons line lines ih =>
    rw [List.zipIdx_cons, List.foldl_cons]
    rcases ih (draft.addLine (line, number)) (number + 1) with he | ⟨one, ho, hs⟩
    · rw [he]
      rcases hstep draft line number with hd | hs
      · exact .inl hd
      · exact .inr ⟨reading line, by simp, hs⟩
    · exact .inr ⟨one, List.mem_cons_of_mem _ ho, hs⟩

theorem foldl_addLine_blank (lines : List (List Char)) (draft : Draft) (number : Nat) :
    ((lines.zipIdx number).foldl Draft.addLine draft).blank = draft.blank ∨
      .blank ((lines.zipIdx number).foldl Draft.addLine draft).blank ∈ lines.map reading := by
  have h := foldl_addLine_origin Draft.blank (fun c one => one = .blank c)
    (fun draft line number => ?_) lines draft number
  · exact h.imp_right fun ⟨one, ho, he⟩ => he ▸ ho
  · rw [(addLine_fields draft line number).2.1]
    cases reading line <;> simp

theorem foldl_addLine_input (lines : List (List Char)) (draft : Draft) (number : Nat) :
    ((lines.zipIdx number).foldl Draft.addLine draft).input = draft.input ∨
      .input ((lines.zipIdx number).foldl Draft.addLine draft).input ∈ lines.map reading := by
  have h := foldl_addLine_origin Draft.input (fun value one => one = .input value)
    (fun draft line number => ?_) lines draft number
  · exact h.imp_right fun ⟨one, ho, he⟩ => he ▸ ho
  · rw [(addLine_fields draft line number).2.2.1]
    cases reading line <;> simp

theorem foldl_addLine_initialState (lines : List (List Char)) (draft : Draft) (number : Nat) :
    ((lines.zipIdx number).foldl Draft.addLine draft).initialState = draft.initialState ∨
      ∃ name, .start name ∈ lines.map reading ∧
        ((lines.zipIdx number).foldl Draft.addLine draft).initialState = String.ofList name := by
  have h := foldl_addLine_origin Draft.initialState
    (fun state one => ∃ name, one = .start name ∧ state = String.ofList name)
    (fun draft line number => ?_) lines draft number
  · exact h.imp_right fun ⟨one, ho, name, he, hn⟩ => ⟨name, he ▸ ho, hn⟩
  · rw [(addLine_fields draft line number).2.2.2]
    cases reading line <;> simp

theorem addLine_warnings
    (h : (∃ name, reading line = .header name) ∨
      (∃ rule, reading line = .rule (.ok rule)) ∧ draft.current ≠ none) :
    (draft.addLine (line, number)).warnings = draft.warnings := by
  obtain ⟨hd, _⟩ | hd := addLine_cases draft line number
  · rw [hd]
  · rw [hd, Draft.add, ← reading]
    obtain ⟨name, hr⟩ | ⟨⟨rule, hr⟩, hc⟩ := h
    · rw [hr]
    · obtain ⟨state, hs⟩ := Option.ne_none_iff_exists'.mp hc
      rw [hr, hs]
      rfl

/-- Below a header there is nothing to report of headers and rule lines. -/
theorem foldl_addLine_warnings
    (h : ∀ line ∈ lines, (∃ name, reading line = .header name) ∨
      ∃ rule, reading line = .rule (.ok rule))
    (hc : draft.current = none →
      ∀ line, lines.head? = some line → ∃ name, reading line = .header name) :
    ((lines.zipIdx number).foldl Draft.addLine draft).warnings = draft.warnings := by
  induction lines generalizing draft number with
  | nil => rfl
  | cons line lines ih =>
    have hl : (∃ name, reading line = .header name) ∨
        (∃ rule, reading line = .rule (.ok rule)) ∧ draft.current ≠ none := by
      rcases h line (by simp) with hn | hr
      · exact .inl hn
      · by_cases hn : draft.current = none
        · exact .inl (hc hn line rfl)
        · exact .inr ⟨hr, hn⟩
    have ht : (draft.addLine (line, number)).current ≠ none := by
      rw [(addLine_fields draft line number).1]
      obtain ⟨name, hr⟩ | ⟨⟨rule, hr⟩, hn⟩ := hl
      · simp [hr]
      · simpa [hr] using hn
    rw [List.zipIdx_cons, List.foldl_cons,
      ih (fun other ho => h other (List.mem_cons_of_mem line ho)) (fun hn => absurd hn ht),
      addLine_warnings hl]

end TapeMachine.Source
