import TapeMachine.Proofs.Source.Duplicates
import TapeMachine.Proofs.Source.Extraction

namespace TapeMachine

/-- The reports on lines that come to nothing. -/
def Program.faults (program : Program) : List Warning :=
  program.warnings.filter fun warning => !warning.reason.isDuplicate

/-- The reports on rules that take the place of others. -/
def Program.overrides (program : Program) : List Warning :=
  program.warnings.filter fun warning => warning.reason.isDuplicate

namespace Source

open Text

variable {draft : Draft} {text line : List Char} {number : Nat} {lines : List (List Char)}
variable {before after : List (List Char)} {current : Option String} {reason : Reason}

/-- The ways in which a line has an effect, with the draft before it and the one after it. -/
inductive Heeded (draft : Draft) (number : Nat) (text : List Char) : Draft → Prop
  | input {rest value : List Char} (lead : text = "input:".toList ++ rest)
      (quoted : quotedValue? rest = some value) :
      Heeded draft number text { draft with input := value }
  | blank {rest : List Char} {symbol : Char} (lead : text = "blank:".toList ++ rest)
      (quoted : quotedValue? rest = some [symbol]) :
      Heeded draft number text { draft with blank := symbol }
  | start {rest name : List Char} (lead : text = "start state:".toList ++ rest)
      (named : startName? rest = some name) :
      Heeded draft number text { draft with initialState := String.ofList name }
  | table (mark : text = "table:".toList) : Heeded draft number text draft
  | header (colon : text.getLast? = some ':') (no_brace : '{' ∉ text)
      (name_ne : trim text.dropLast ≠ []) :
      Heeded draft number text
        { draft with current := some (String.ofList (trim text.dropLast)) }
  | rule {state : String} {rule : RuleLine} (block : draft.current = some state)
      (read : RuleLine.read text = .ok rule) (symbols_ne : rule.symbols ≠ []) :
      Heeded draft number text (draft.accept number text state rule)

theorem splitSymbols_ne_nil {symbols : List (List Char)} {options : List Char}
    (h : splitSymbols text = .ok (symbols, options)) : symbols ≠ [] := by
  obtain ⟨_, rfl, _⟩ | ⟨rest, i, _, rfl, _⟩ | ⟨_, _, _, _, rfl, _⟩ | ⟨_, _, _, _, rfl, _⟩ :=
    splitSymbols_cases h
  · simp
  · simp [split_ne_nil]
  · simp
  · simp

theorem symbols_ne_nil {rule : RuleLine} (h : RuleLine.read text = .ok rule) :
    rule.symbols ≠ [] := by
  obtain ⟨_, hs, _⟩ := ruleLine_read_eq_ok h
  exact splitSymbols_ne_nil hs

theorem add_of_fault (h : faultIn draft.current (Line.read text) = some reason) :
    draft.add number text = draft.warn number text reason := by
  unfold Draft.add
  cases hr : Line.read text with
  | faulty other =>
    rw [hr] at h
    cases h
    rfl
  | rule body =>
    rw [hr] at h
    cases hc : draft.current with
    | none =>
      rw [hc] at h
      cases h
      rfl
    | some state =>
      cases body with
      | error other =>
        rw [hc] at h
        cases h
        rfl
      | ok rule => simp [hc, faultIn] at h
  | _ => simp [hr, faultIn] at h

/-- A line that is not reported has one of the effects there are. -/
theorem heeded_of_no_fault (h : faultIn draft.current (Line.read text) = none) :
    Heeded draft number text (draft.add number text) := by
  unfold Draft.add
  obtain ⟨rest, he, hr⟩ | ⟨rest, he, hr⟩ | ⟨rest, he, hr⟩ | ⟨hl, _⟩ := read_cases text
  · obtain ⟨value, hq, hv⟩ | ⟨reason, hv⟩ := readInput_cases rest
    · rw [hr, hv]
      exact .input he hq
    · simp [hr, hv, faultIn] at h
  · obtain ⟨symbol, hq, hv⟩ | ⟨reason, hv⟩ := readBlank_cases rest
    · rw [hr, hv]
      exact .blank he hq
    · simp [hr, hv, faultIn] at h
  · obtain ⟨name, hn, hv⟩ | ⟨reason, hv⟩ := readStart_cases rest
    · rw [hr, hv]
      exact .start he hn
    · simp [hr, hv, faultIn] at h
  · rw [read_of_no_lead hl] at h ⊢
    by_cases ht : text = "table:".toList
    · rw [if_pos ht]
      exact .table ht
    · rw [if_neg ht] at h ⊢
      obtain ⟨hc, hb, hn, hv⟩ | hv | ⟨reason, hv⟩ := readOther_cases text
      · rw [hv]
        exact .header hc hb hn
      · rw [hv] at h ⊢
        cases hs : draft.current with
        | none => simp [hs, faultIn] at h
        | some state =>
          cases hb : RuleLine.read text with
          | error reason => simp [hs, hb, faultIn] at h
          | ok rule => exact .rule hs hb (symbols_ne_nil hb)
      · simp [hv, faultIn] at h

theorem heeded_of_reportOn (hc : Draft.content line ≠ [])
    (h : reportOn draft.current (line, number) = none) :
    Heeded draft number (Draft.content line) (draft.addLine (line, number)) := by
  rw [reportOn_of_content hc, Option.map_eq_none_iff] at h
  rw [addLine_of_content hc]
  exact heeded_of_no_fault h

/-- The numbers of the lines that are reported for what they say. -/
def faultNumbers (lines : List (List Char)) : List Nat :=
  (reportsFrom none (lines.zipIdx 1)).map Warning.line

theorem faultNumbers_concat (lines : List (List Char)) (line : List Char) :
    faultNumbers (lines ++ [line]) =
      faultNumbers lines ++
        ((reportOn (Draft.ofLines lines).current (line, lines.length + 1)).map
          Warning.line).toList := by
  have h : reportsFrom none ((lines ++ [line]).zipIdx 1) =
      reportsFrom none (lines.zipIdx 1) ++
        (reportOn (Draft.ofLines lines).current (line, lines.length + 1)).toList := by
    rw [← (ofLines_adds (lines ++ [line])).2, ← (ofLines_adds lines).2, ofLines_concat]
    exact (addLine_adds (Draft.ofLines lines) line (lines.length + 1)).2.2
  rw [faultNumbers, h, List.map_append, Option.toList_map]
  rfl

theorem reportOn_cases (current : Option String) (line : List Char) (number : Nat) :
    reportOn current (line, number) = none ∨
      ∃ reason, reportOn current (line, number) =
          some ⟨number, String.ofList (Draft.content line), reason⟩ ∧
        Draft.content line ≠ [] ∧ faultIn current (reading line) = some reason := by
  by_cases hc : Draft.content line = []
  · exact .inl (reportOn_of_empty hc)
  · rw [reportOn_of_content hc]
    cases faultIn current (reading line) with
    | none => exact .inl rfl
    | some reason => exact .inr ⟨reason, rfl, hc, rfl⟩

theorem faultNumbers_cases (lines : List (List Char)) (line : List Char) :
    (reportOn (Draft.ofLines lines).current (line, lines.length + 1) = none ∧
        faultNumbers (lines ++ [line]) = faultNumbers lines) ∨
      (∃ reason, Draft.content line ≠ [] ∧
          faultIn (Draft.ofLines lines).current (reading line) = some reason) ∧
        faultNumbers (lines ++ [line]) = faultNumbers lines ++ [lines.length + 1] := by
  rw [faultNumbers_concat]
  obtain hn | ⟨reason, hs, hc, hf⟩ :=
    reportOn_cases (Draft.ofLines lines).current line (lines.length + 1)
  · exact .inl ⟨hn, by simp [hn]⟩
  · exact .inr ⟨⟨reason, hc, hf⟩, by simp [hs]⟩

theorem le_of_mem_faultNumbers (h : number ∈ faultNumbers lines) : number ≤ lines.length := by
  obtain ⟨warning, hw, rfl⟩ := List.mem_map.mp h
  obtain ⟨_, _, hm, _⟩ := mem_reportsFrom hw
  have := (List.mem_zipIdx hm).2.1
  omega

/-- A line is reported at most once, and the reports come in the order of the lines. -/
theorem faultNumbers_increasing (lines : List (List Char)) :
    (faultNumbers lines).Pairwise (· < ·) := by
  induction lines using List.reverseRecOn with
  | nil => exact List.Pairwise.nil
  | append_singleton lines line ih =>
    obtain ⟨_, he⟩ | ⟨_, he⟩ := faultNumbers_cases lines line
    · rwa [he]
    · rw [he, List.pairwise_append]
      refine ⟨ih, List.pairwise_singleton _ _, fun number hn other ho => ?_⟩
      rw [List.mem_singleton.mp ho]
      exact Nat.lt_succ_of_le (le_of_mem_faultNumbers hn)

/-- Whether a line is reported is settled when it is read. -/
theorem mem_faultNumbers_append (h : number ≤ before.length) :
    number ∈ faultNumbers (before ++ after) ↔ number ∈ faultNumbers before := by
  induction after using List.reverseRecOn with
  | nil => rw [List.append_nil]
  | append_singleton after line ih =>
    rw [← List.append_assoc]
    obtain ⟨_, he⟩ | ⟨_, he⟩ := faultNumbers_cases (before ++ after) line
    · rw [he, ih]
    · rw [he, List.mem_append, ih, List.mem_singleton, or_iff_left]
      rw [List.length_append]
      omega

theorem reportOn_of_notMem (h : before.length + 1 ∉ faultNumbers (before ++ line :: after)) :
    reportOn (Draft.ofLines before).current (line, before.length + 1) = none := by
  rw [List.append_cons, mem_faultNumbers_append (by simp)] at h
  obtain ⟨hn, _⟩ | ⟨_, he⟩ := faultNumbers_cases before line
  · exact hn
  · simp [he] at h

/-- A draft that has nothing to report. -/
def Draft.silent (draft : Draft) : Draft :=
  { draft with warnings := #[] }

theorem add_silent (h : faultIn draft.current (Line.read text) = none) :
    draft.silent.add number text = (draft.add number text).silent := by
  have hc : draft.silent.current = draft.current := rfl
  unfold Draft.add
  rw [hc]
  cases hr : Line.read text with
  | faulty reason => simp [hr, faultIn] at h
  | rule body =>
    cases hs : draft.current with
    | none => simp [hr, hs, faultIn] at h
    | some state =>
      cases body with
      | error reason => simp [hr, hs, faultIn] at h
      | ok rule => rfl
  | _ => rfl

theorem addLine_silent (h : reportOn draft.current (line, number) = none) :
    draft.silent.addLine (line, number) = (draft.addLine (line, number)).silent := by
  by_cases hc : Draft.content line = []
  · rw [addLine_of_empty hc, addLine_of_empty hc]
  · rw [reportOn_of_content hc, Option.map_eq_none_iff] at h
    rw [addLine_of_content hc, addLine_of_content hc]
    exact add_silent h

theorem addLine_of_fault (hc : Draft.content line ≠ [])
    (hf : faultIn draft.current (reading line) = some reason) :
    draft.addLine (line, number) = draft.warn number (Draft.content line) reason := by
  rw [addLine_of_content hc]
  exact add_of_fault hf

/-- Lines of which those with some numbers are empty. -/
def emptied (numbers : List Nat) (lines : List (List Char)) : List (List Char) :=
  (lines.zipIdx 1).map fun (line, number) => if number ∈ numbers then [] else line

theorem emptied_concat (numbers : List Nat) (lines : List (List Char)) (line : List Char) :
    emptied numbers (lines ++ [line]) =
      emptied numbers lines ++ [if lines.length + 1 ∈ numbers then [] else line] := by
  simp [emptied, List.zipIdx_append, Nat.add_comm]

theorem length_emptied (numbers : List Nat) (lines : List (List Char)) :
    (emptied numbers lines).length = lines.length := by
  simp [emptied]

/-- Without the lines that are reported for what they say a draft is the same, but for the
reports. -/
theorem ofLines_emptied {numbers : List Nat}
    (h : ∀ number ≤ lines.length, number ∈ numbers ↔ number ∈ faultNumbers lines) :
    Draft.ofLines (emptied numbers lines) = (Draft.ofLines lines).silent := by
  induction lines using List.reverseRecOn with
  | nil => rfl
  | append_singleton lines line ih =>
    have hb := ih fun number hn =>
      (h number (by rw [List.length_append]; omega)).trans (mem_faultNumbers_append hn)
    have hl := h (lines.length + 1) (by simp)
    rw [emptied_concat, ofLines_concat, ofLines_concat, hb, length_emptied]
    obtain ⟨hn, he⟩ | ⟨⟨reason, hc, hf⟩, he⟩ := faultNumbers_cases lines line
    · have hm : lines.length + 1 ∉ faultNumbers lines := fun hm =>
        absurd (le_of_mem_faultNumbers hm) (by omega)
      rw [if_neg (by rwa [hl, he]), addLine_silent hn]
    · rw [if_pos (by rw [hl, he]; simp), addLine_of_fault hc hf]
      rfl

theorem ofLines_faults (lines : List (List Char)) :
    (Program.ofLines lines).faults = reportsFrom none (lines.zipIdx 1) := by
  have hr : (reportsFrom none (lines.zipIdx 1)).filter
      (fun warning => !warning.reason.isDuplicate) = reportsFrom none (lines.zipIdx 1) :=
    List.filter_eq_self.mpr fun _ hw => by simp [not_duplicate_of_mem_reportsFrom hw]
  have hc : (collect (Program.ofLines lines).table.blank
      (acceptedFrom none (lines.zipIdx 1))).2.filter
        (fun warning => !warning.reason.isDuplicate) = [] := by
    rw [List.filter_eq_nil_iff]
    intro warning hw
    simp [duplicate_of_mem_collect hw]
  have hs : (reportsFrom none (lines.zipIdx 1)).Pairwise fun a b => a.line ≤ b.line :=
    (List.pairwise_map.mp (faultNumbers_increasing lines)).imp fun hlt => Nat.le_of_lt hlt
  rw [Program.faults, ofLines_warnings, filter_byLine, List.filter_append, hr, hc, List.append_nil]
  rwa [List.filter_append, hr, hc, List.append_nil]

theorem ofLines_overrides (lines : List (List Char)) :
    (Program.ofLines lines).overrides =
      (collect (Program.ofLines lines).table.blank (acceptedFrom none (lines.zipIdx 1))).2 :=
  filter_isDuplicate lines

theorem oneLine_emptied (numbers : List Nat)
    (h : ∀ line ∈ lines, ∀ c ∈ line, isLineEnd c = false) :
    ∀ line ∈ emptied numbers lines, ∀ c ∈ line, isLineEnd c = false := by
  intro line hl
  obtain ⟨⟨old, number⟩, hm, rfl⟩ := List.mem_map.mp hl
  by_cases hn : number ∈ numbers
  · simp [hn]
  · simpa [hn] using h old (List.fst_mem_of_mem_zipIdx hm)

/-- Emptied of the lines that are reported for what they say, a program is the same and has its
overrides left to report. -/
theorem ofLines_emptied_faults (lines : List (List Char)) :
    Program.ofLines (emptied (faultNumbers lines) lines) =
      { Program.ofLines lines with warnings := (Program.ofLines lines).overrides } := by
  have hd : Draft.ofLines (emptied (faultNumbers lines) lines) = (Draft.ofLines lines).silent :=
    ofLines_emptied fun _ _ => Iff.rfl
  have hs := collect_sorted (Program.ofLines lines).table.blank lines
  have hm := List.mergeSort_of_pairwise (hs.imp fun hle => decide_eq_true hle)
  rw [← (ofLines_adds lines).1] at hm
  rw [ofLines_overrides, ← (ofLines_adds lines).1, ← hm, Program.ofLines, hd]
  rfl

/-- A line that has content and is not reported has an effect; one that is reported has none, and is
reported once. -/
theorem ofText_faults_inert (text : String) :
    let lines := Text.lines text.toList
    let faulty := (Program.ofText text).faults.map Warning.line
    ((∃ quiet, HasLines quiet (emptied faulty lines)) ∧
        ∀ quiet, HasLines quiet (emptied faulty lines) →
          Program.ofText quiet =
            { Program.ofText text with warnings := (Program.ofText text).overrides }) ∧
      (∀ before line after, lines = before ++ line :: after → Draft.content line ≠ [] →
        before.length + 1 ∉ faulty →
          Heeded (Draft.ofLines before) (before.length + 1) (Draft.content line)
            (Draft.ofLines (before ++ [line]))) ∧
      faulty.Nodup := by
  intro lines faulty
  have hf : faulty = faultNumbers lines := congrArg (List.map Warning.line) (ofLines_faults lines)
  rw [hf]
  refine ⟨⟨?_, fun quiet hq => ?_⟩, fun before line after hl hc hn => ?_, ?_⟩
  · exact exists_hasLines (oneLine_emptied _ fun _ hm _ hc => isLineEnd_of_mem_lines hm hc)
  · rw [ofText_of_hasLines hq]
    exact ofLines_emptied_faults lines
  · rw [hl] at hn
    have hr := reportOn_of_notMem hn
    rw [ofLines_concat]
    exact heeded_of_reportOn hc hr
  · exact (faultNumbers_increasing lines).imp fun hlt => Nat.ne_of_lt hlt

/-- A state with two rules on one symbol, a line that nobody knows and an input without quotes. -/
def strayText : String :=
  "s:\n a: \x7bR: s\x7d\nstray\n a: \x7bL: t\x7d\ninput: 01"

def quietText : String :=
  "s:\n a: \x7bR: s\x7d\n\n a: \x7bL: t\x7d\n"

theorem ofText_faults_inert_strayText :
    HasLines quietText
        (emptied ((Program.ofText strayText).faults.map Warning.line)
          (Text.lines strayText.toList)) ∧
      Program.ofText quietText =
        { Program.ofText strayText with warnings := (Program.ofText strayText).overrides } := by
  have hf : (Program.ofText strayText).faults.map Warning.line = [3, 5] := by
    rw [Program.ofText, ofLines_faults]
    decide +kernel
  have h : HasLines quietText
      (emptied ((Program.ofText strayText).faults.map Warning.line)
        (Text.lines strayText.toList)) := by
    rw [hf]
    exact .inr (by decide +kernel)
  exact ⟨h, (ofText_faults_inert strayText).1.2 quietText h⟩

end Source

end TapeMachine
