import TapeMachine.Proofs.Source.Overrides
import TapeMachine.Proofs.Source.Readings

namespace TapeMachine.Source

open Text

variable {draft : Draft} {line rest : List Char} {number : Nat} {lines others : List (List Char)}
variable {one : Line} {said : List Line} {blank : String} {current : Option String}

/-- The kinds of line of which the last word counts. -/
inductive Directive where
  | input
  | blank
  | start
  deriving DecidableEq, Repr

variable {directive other : Directive}

def Directive.lead : Directive → String
  | .input => "input:"
  | .blank => "blank:"
  | .start => "start state:"

def Directive.read : Directive → List Char → Line
  | .input => Line.readInput
  | .blank => Line.readBlank
  | .start => Line.readStart

/-- Whether a line is a directive of a kind. It may be a faulty one. -/
def Directive.Opens (directive : Directive) (line : List Char) : Prop :=
  directive.lead.toList <+: Draft.content line

instance (directive : Directive) (line : List Char) : Decidable (directive.Opens line) :=
  inferInstanceAs (Decidable (_ <+: _))

/-- What a line says under a directive. -/
def Directive.said? : Directive → Line → Option (List Char)
  | .input, .input value => some value
  | .blank, .blank symbol => some [symbol]
  | .start, .start name => some name
  | _, _ => none

/-- What a draft has been told under a directive. -/
def Draft.told (draft : Draft) : Directive → List Char
  | .input => draft.input
  | .blank => [draft.blank]
  | .start => draft.initialState.toList

/-- The kind under which a line says something. -/
def Line.directive? : Line → Option Directive
  | .input _ => some .input
  | .blank _ => some .blank
  | .start _ => some .start
  | _ => none

/-- Whether a line has no part in the blocks of the states. -/
def Line.isAside : Line → Bool
  | .header _ => false
  | .rule _ => false
  | _ => true

theorem said?_eq_none (h : one.directive? ≠ some directive) : directive.said? one = none := by
  unfold Directive.said?
  split
  next => exact absurd rfl h
  next => exact absurd rfl h
  next => exact absurd rfl h
  next => rfl

theorem isAside_of_directive? (h : one.directive? = some directive) : one.isAside = true := by
  cases one with
  | header name | rule body => simp [Line.directive?] at h
  | _ => rfl

theorem read_lead (directive : Directive) (rest : List Char) :
    Line.read (directive.lead.toList ++ rest) = directive.read rest := by
  cases directive <;> rfl

/-- A directive that is not faulty says something of its own kind. -/
theorem directive_read (directive : Directive) (rest : List Char) :
    (∃ reason, directive.read rest = .faulty reason) ∨
      (directive.read rest).directive? = some directive := by
  cases directive with
  | input =>
    obtain ⟨value, _, hv⟩ | hf := readInput_cases rest
    · exact .inr (by rw [Directive.read, hv]; rfl)
    · exact .inl hf
  | blank =>
    obtain ⟨symbol, _, hv⟩ | hf := readBlank_cases rest
    · exact .inr (by rw [Directive.read, hv]; rfl)
    · exact .inl hf
  | start =>
    obtain ⟨name, _, hv⟩ | hf := readStart_cases rest
    · exact .inr (by rw [Directive.read, hv]; rfl)
    · exact .inl hf

theorem reading_of_opens (h : directive.Opens line) :
    (reading line).isAside = true ∧
      ∀ other, other ≠ directive → other.said? (reading line) = none := by
  obtain ⟨rest, he⟩ := h
  rw [reading, ← he, read_lead]
  obtain ⟨reason, hf⟩ | hd := directive_read directive rest
  · rw [hf]
    exact ⟨rfl, fun other _ => said?_eq_none (by simp [Line.directive?])⟩
  · refine ⟨isAside_of_directive? hd, fun other ho => said?_eq_none ?_⟩
    rw [hd]
    exact fun hs => ho (Option.some.inj hs).symm

/-- What says something under a directive is one. -/
theorem opens_of_said? (h : directive.said? (reading line) ≠ none) : directive.Opens line := by
  have hd : (reading line).directive? = some directive := by
    by_contra hn
    exact h (said?_eq_none hn)
  have hlead : ∀ (kind : Directive) (rest : List Char),
      Draft.content line = kind.lead.toList ++ rest → directive.Opens line := by
    intro kind rest he
    rw [reading, he, read_lead] at hd
    obtain ⟨reason, hf⟩ | hk := directive_read kind rest
    · simp [hf, Line.directive?] at hd
    · have hk : kind = directive := Option.some.inj (hk.symm.trans hd)
      exact ⟨rest, by rw [he, hk]⟩
  obtain ⟨rest, he, _⟩ | ⟨rest, he, _⟩ | ⟨rest, he, _⟩ | ⟨_, hr | hr⟩ :=
    read_cases (Draft.content line)
  · exact hlead .input rest he
  · exact hlead .blank rest he
  · exact hlead .start rest he
  · simp [reading, hr, Line.directive?] at hd
  · rw [reading, hr] at hd
    obtain ⟨_, _, _, hv⟩ | hv | ⟨_, hv⟩ := readOther_cases (Draft.content line) <;>
      simp [hv, Line.directive?] at hd

theorem addLine_told (draft : Draft) (line : List Char) (number : Nat) (directive : Directive) :
    (draft.addLine (line, number)).told directive =
      (directive.said? (reading line)).getD (draft.told directive) := by
  obtain ⟨_, hb, hi, hs⟩ := addLine_fields draft line number
  cases directive with
  | input =>
    rw [Draft.told, hi]
    cases reading line <;> rfl
  | blank =>
    rw [Draft.told, hb]
    cases reading line <;> rfl
  | start =>
    rw [Draft.told, hs]
    cases reading line <;> simp [Directive.said?, Draft.told]

/-- The last word of some lines under a directive. -/
def lastSaid? (directive : Directive) (said : List Line) : Option (List Char) :=
  (said.filterMap directive.said?).getLast?

theorem foldl_addLine_told (directive : Directive) (lines : List (List Char)) (draft : Draft)
    (number : Nat) :
    ((lines.zipIdx number).foldl Draft.addLine draft).told directive =
      (lastSaid? directive (lines.map reading)).getD (draft.told directive) :=
  foldl_addLine_last (Draft.told · directive) directive.said?
    (fun draft line number => addLine_told draft line number directive) lines draft number

/-- Lines aside of the blocks describe no rules and leave those of other lines where they are. -/
theorem rulesHeard_filter (blank : String) (current : Option String) (said : List Line) :
    rulesHeard blank current (said.filter fun one => !one.isAside) =
      rulesHeard blank current said := by
  induction said generalizing current with
  | nil => rfl
  | cons one said ih =>
    cases one with
    | header _ | rule _ =>
      rw [List.filter_cons_of_pos (by rfl), rulesHeard_cons, ih, rulesHeard_cons _ _ _ said]
    | _ =>
      rw [List.filter_cons_of_neg (by simp [Line.isAside]), ih, rulesHeard_cons _ _ _ said]
      cases current <;> simp [rulesHeard, Line.rules]

theorem collect_rules (blank : String) (accepted : List Accepted) :
    (collect blank accepted).1 = (accepted.map (Accepted.rule blank)).foldl put [] := by
  induction accepted using List.reverseRecOn with
  | nil => rfl
  | append_singleton accepted next ih =>
    rw [collect_concat, ih, List.map_append, List.foldl_append]
    rfl

/-- A table depends on nothing but the rules that its lines describe and their last words under
each directive. -/
theorem ofLines_table_congr
    (ht : ∀ directive, lastSaid? directive (lines.map reading) =
      lastSaid? directive (others.map reading))
    (hr : ∀ blank, rulesHeard blank none (lines.map reading) =
      rulesHeard blank none (others.map reading)) :
    (Program.ofLines lines).table = (Program.ofLines others).table := by
  have hd : ∀ directive, (Draft.ofLines lines).told directive =
      (Draft.ofLines others).told directive := by
    intro directive
    rw [Draft.ofLines, Draft.ofLines, foldl_addLine_told, foldl_addLine_told, ht]
  have hinput : (Draft.ofLines lines).input = (Draft.ofLines others).input := hd .input
  have hblank : (Draft.ofLines lines).blank = (Draft.ofLines others).blank :=
    List.singleton_injective (hd .blank)
  have hstart : (Draft.ofLines lines).initialState = (Draft.ofLines others).initialState :=
    String.toList_inj.mp (hd .start)
  simp only [Program.ofLines, Draft.program, collect_rules, ofLines_accepted, hinput, hblank,
    hstart, hr]

theorem filterMap_move {α β : Type} {pick : α → Option β} {a : α} {between : List α}
    (h : pick a = none ∨ ∀ b ∈ between, pick b = none) (before after : List α) :
    (before ++ a :: (between ++ after)).filterMap pick =
      (before ++ (between ++ a :: after)).filterMap pick := by
  rcases h with ha | hb
  · simp [List.filterMap_append, ha]
  · have hn : between.filterMap pick = [] := List.filterMap_eq_nil_iff.mpr hb
    simp [List.filterMap_append, List.filterMap_cons, hn]

/-- A directive may stand on either side of lines that are none of its kind: in a block or outside
of all, before the rules whose empty symbols are the blank or after them. -/
theorem ofText_move_directive {text moved : String} {before between after : List (List Char)}
    (ht : HasLines text (before ++ line :: (between ++ after)))
    (hm : HasLines moved (before ++ (between ++ line :: after)))
    (hd : directive.Opens line) (hb : ∀ other ∈ between, ¬directive.Opens other) :
    (Program.ofText moved).table = (Program.ofText text).table := by
  obtain ⟨haside, hsaid⟩ := reading_of_opens hd
  rw [ofText_of_hasLines ht, ofText_of_hasLines hm]
  symm
  apply ofLines_table_congr
  · intro kind
    have hk : (kind.said? ∘ reading) line = none ∨
        ∀ other ∈ between, (kind.said? ∘ reading) other = none := by
      by_cases he : kind = directive
      · refine .inr fun other ho => ?_
        by_contra hs
        exact hb other ho (opens_of_said? (he ▸ hs))
      · exact .inl (hsaid kind he)
    rw [lastSaid?, lastSaid?, List.filterMap_map, List.filterMap_map, filterMap_move hk]
  · intro blank
    rw [← rulesHeard_filter, ← rulesHeard_filter _ _ ((before ++ (between ++ line :: after)).map _)]
    simp [haside]

def lateBlank : String :=
  "s:\n '': \x7bL: s\x7d\nstart state: s\n blank: 'B'\n B: \x7bR: t\x7d\n"

def earlyBlank : String :=
  " blank: 'B'\ns:\n '': \x7bL: s\x7d\nstart state: s\n B: \x7bR: t\x7d\n"

/-- The blank moves up over a rule on it, over another directive and out of the block. -/
theorem ofText_move_directive_earlyBlank :
    let line := " blank: 'B'".toList
    let between := ["s:".toList, " '': \x7bL: s\x7d".toList, "start state: s".toList]
    let after := [" B: \x7bR: t\x7d".toList]
    HasLines lateBlank ([] ++ (between ++ line :: after)) ∧
      HasLines earlyBlank ([] ++ line :: (between ++ after)) ∧
      Directive.blank.Opens line ∧ (∀ other ∈ between, ¬Directive.blank.Opens other) ∧
      (Program.ofText lateBlank).table = (Program.ofText earlyBlank).table := by
  intro line between after
  have hlate : HasLines lateBlank ([] ++ (between ++ line :: after)) := .inl (by decide +kernel)
  have hearly : HasLines earlyBlank ([] ++ line :: (between ++ after)) := .inl (by decide +kernel)
  have hline : Directive.blank.Opens line := by decide +kernel
  have hbetween : ∀ other ∈ between, ¬Directive.blank.Opens other := by decide +kernel
  exact ⟨hlate, hearly, hline, hbetween,
    ofText_move_directive hearly hlate hline hbetween⟩

end TapeMachine.Source
