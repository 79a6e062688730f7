import Mathlib.Data.List.Induction
import TapeMachine.Proofs.Source.Readings
import TapeMachine.Proofs.Source.Drafts

namespace TapeMachine.Source

open Text

variable {draft : Draft} {line : List Char} {number : Nat} {current : Option String}
variable {numbered rest : List (List Char × Nat)} {lines : List (List Char)} {reason : Reason}

/-- The symbols that a rule line accepts in the block of a state. -/
def RuleLine.accepted (rule : RuleLine) (number : Nat) (text : List Char) (state : String) :
    List Accepted :=
  rule.symbols.map fun symbol =>
    { line := number
      text := String.ofList text
      state
      symbol := String.ofList symbol
      write := rule.write.map String.ofList
      move := rule.move
      target := String.ofList rule.target }

/-- The state whose block goes on after a line. -/
def blockAfter (current : Option String) : Line → Option String
  | .header state => some (String.ofList state)
  | _ => current

/-- The symbols that a numbered line accepts in the block of a state. -/
def acceptedOn (current : Option String) (numbered : List Char × Nat) : List Accepted :=
  match current, reading numbered.1 with
  | some state, .rule (.ok rule) =>
    rule.accepted numbered.2 (Draft.content numbered.1) state
  | _, _ => []

/-- The symbols that numbered lines accept, in the order of the text. -/
def acceptedFrom (current : Option String) : List (List Char × Nat) → List Accepted
  | [] => []
  | line :: rest =>
    acceptedOn current line ++ acceptedFrom (blockAfter current (reading line.1)) rest

/-- What is wrong with a line that stands in the block of a state, or in none. -/
def faultIn (current : Option String) : Line → Option Reason
  | .faulty reason => some reason
  | .rule body =>
    match current, body with
    | none, _ => some .ruleOutsideState
    | some _, .error reason => some reason
    | some _, .ok _ => none
  | _ => none

/-- The report on a numbered line, if it has content that comes to nothing. -/
def reportOn (current : Option String) (numbered : List Char × Nat) : Option Warning :=
  match Draft.content numbered.1 with
  | [] => none
  | text => (faultIn current (reading numbered.1)).map fun reason =>
    ⟨numbered.2, String.ofList text, reason⟩

/-- The reports on numbered lines, in the order of the text. -/
def reportsFrom (current : Option String) : List (List Char × Nat) → List Warning
  | [] => []
  | line :: rest =>
    (reportOn current line).toList ++ reportsFrom (blockAfter current (reading line.1)) rest

theorem reportOn_of_empty (h : Draft.content line = []) :
    reportOn current (line, number) = none := by
  rw [reportOn, h]

theorem reportOn_of_content (h : Draft.content line ≠ []) :
    reportOn current (line, number) = (faultIn current (reading line)).map fun reason =>
      ⟨number, String.ofList (Draft.content line), reason⟩ := by
  unfold reportOn
  split
  next he => exact absurd he h
  next => rfl

/-- What a line adds to a draft. -/
theorem addLine_adds (draft : Draft) (line : List Char) (number : Nat) :
    (draft.addLine (line, number)).current = blockAfter draft.current (reading line) ∧
      (draft.addLine (line, number)).accepted.toList =
        draft.accepted.toList ++ acceptedOn draft.current (line, number) ∧
      (draft.addLine (line, number)).warnings.toList =
        draft.warnings.toList ++ (reportOn draft.current (line, number)).toList := by
  refine ⟨(addLine_fields draft line number).1, ?_⟩
  unfold acceptedOn
  by_cases h : Draft.content line = []
  · simp [addLine_of_empty h, reportOn_of_empty h, reading_of_empty h]
  · rw [addLine_of_content h, reportOn_of_content h, Draft.add, ← reading]
    cases reading line with
    | rule body =>
      cases hc : draft.current with
      | none => simp [Draft.warn, faultIn]
      | some state => cases body <;> simp [Draft.warn, Draft.accept, RuleLine.accepted, faultIn]
    | _ => cases hc : draft.current <;> simp [Draft.warn, faultIn]

/-- A draft gathers what its lines accept and the reports on them in their order. -/
theorem foldl_addLine_adds (numbered : List (List Char × Nat)) (draft : Draft) :
    (numbered.foldl Draft.addLine draft).accepted.toList =
        draft.accepted.toList ++ acceptedFrom draft.current numbered ∧
      (numbered.foldl Draft.addLine draft).warnings.toList =
        draft.warnings.toList ++ reportsFrom draft.current numbered := by
  induction numbered generalizing draft with
  | nil => simp [acceptedFrom, reportsFrom]
  | cons line numbered ih =>
    obtain ⟨hc, ha, hw⟩ := addLine_adds draft line.1 line.2
    obtain ⟨hta, htw⟩ := ih (draft.addLine line)
    rw [List.foldl_cons, hta, htw, hc, ha, hw]
    simp [acceptedFrom, reportsFrom]

theorem ofLines_adds (lines : List (List Char)) :
    (Draft.ofLines lines).accepted.toList = acceptedFrom none (lines.zipIdx 1) ∧
      (Draft.ofLines lines).warnings.toList = reportsFrom none (lines.zipIdx 1) := by
  exact foldl_addLine_adds (lines.zipIdx 1) {}

/-- What is accepted tells the number and the content of its line. -/
theorem mem_acceptedFrom {next : Accepted} (h : next ∈ acceptedFrom current numbered) :
    ∃ line, (line, next.line) ∈ numbered ∧ next.text = String.ofList (Draft.content line) := by
  induction numbered generalizing current with
  | nil => simp [acceptedFrom] at h
  | cons first numbered ih =>
    rcases List.mem_append.mp h with h | h
    · unfold acceptedOn at h
      split at h
      next =>
        obtain ⟨symbol, _, rfl⟩ := List.mem_map.mp h
        exact ⟨first.1, by simp, rfl⟩
      next => simp at h
    · obtain ⟨line, hm, he⟩ := ih h
      exact ⟨line, List.mem_cons_of_mem first hm, he⟩

/-- A report tells the number and the content of its line, and what is wrong with it. -/
theorem mem_reportsFrom {warning : Warning} (h : warning ∈ reportsFrom current numbered) :
    ∃ line block, (line, warning.line) ∈ numbered ∧
      warning.text = String.ofList (Draft.content line) ∧
      faultIn block (reading line) = some warning.reason := by
  induction numbered generalizing current with
  | nil => simp [reportsFrom] at h
  | cons first numbered ih =>
    rcases List.mem_append.mp h with h | h
    · rw [Option.mem_toList, reportOn] at h
      split at h
      next => simp at h
      next =>
        obtain ⟨reason, hf, rfl⟩ := Option.map_eq_some_iff.mp h
        exact ⟨first.1, current, by simp, rfl, hf⟩
    · obtain ⟨line, block, hm, he, hf⟩ := ih h
      exact ⟨line, block, List.mem_cons_of_mem first hm, he, hf⟩

/-- Whether a rule took the place of another. -/
def Reason.isDuplicate : Reason → Bool
  | .duplicate .. => true
  | _ => false

theorem splitSymbols_reason (h : splitSymbols line = .error reason) :
    reason.isDuplicate = false := by
  have hafter : ∀ symbols rest, afterSymbols symbols rest = .error reason →
      reason.isDuplicate = false := by
    intro symbols rest ha
    unfold afterSymbols at ha
    split at ha <;> cases ha
    rfl
  unfold splitSymbols at h
  split at h
  next => cases h
  next =>
    split at h
    next =>
      split at h
      next => cases h; rfl
      next => exact hafter _ _ h
    next =>
      split at h
      next =>
        split at h
        next => exact hafter _ _ h
        next => cases h; rfl
      next => cases h

theorem ruleLine_reason (h : RuleLine.read line = .error reason) :
    reason.isDuplicate = false := by
  unfold RuleLine.read at h
  cases hs : splitSymbols line with
  | error other =>
    simp only [hs, bind, Except.bind, Except.error.injEq] at h
    exact h ▸ splitSymbols_reason hs
  | ok parts =>
    simp only [hs, bind, Except.bind] at h
    split at h <;> cases h
    rfl

theorem readOther_reason (h : Line.readOther line = .faulty reason) :
    reason.isDuplicate = false := by
  unfold Line.readOther at h
  split at h
  next =>
    split at h <;> cases h
    rfl
  next =>
    split at h <;> cases h
    rfl

/-- No line on its own is reported as an override. -/
theorem read_reason (h : Line.read line = .faulty reason) : reason.isDuplicate = false := by
  obtain ⟨rest, _, hr⟩ | ⟨rest, _, hr⟩ | ⟨rest, _, hr⟩ | ⟨_, hr | hr⟩ := read_cases line
  · rw [hr, Line.readInput] at h
    split at h <;> cases h
    rfl
  · rw [hr, Line.readBlank] at h
    split at h <;> cases h <;> rfl
  · rw [hr, Line.readStart] at h
    split at h <;> cases h
    rfl
  · simp [hr] at h
  · exact readOther_reason (hr ▸ h)

theorem faultIn_reason (h : faultIn current (reading line) = some reason) :
    reason.isDuplicate = false := by
  have ht := read_tells (Draft.content line)
  rw [← reading] at ht
  cases hr : reading line with
  | faulty other =>
    rw [hr] at h
    cases h
    exact read_reason hr
  | rule body =>
    rw [hr] at h ht
    have hb : body = RuleLine.read (Draft.content line) := ht
    cases current with
    | none => cases h; rfl
    | some state =>
      cases body with
      | error other =>
        cases h
        exact ruleLine_reason hb.symm
      | ok rule => simp [faultIn] at h
  | _ => simp [hr, faultIn] at h

end TapeMachine.Source
