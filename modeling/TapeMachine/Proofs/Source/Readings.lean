import TapeMachine.Proofs.Source.Directives

namespace TapeMachine.Source

open Text

variable {text name value rest : List Char} {c : Char}

theorem after?_eq_some {lead : String} (h : after? lead text = some rest) :
    text = lead.toList ++ rest := by
  unfold after? at h
  split at h
  next hp =>
    obtain ⟨tail, ht⟩ := List.isPrefixOf_iff_prefix.mp hp
    cases Option.some.inj h
    rw [← ht, List.drop_left]
  next => simp at h

theorem not_prefix_of_after? {lead : String} (h : after? lead text = none) :
    ¬lead.toList <+: text := by
  intro hp
  simp [after?, List.isPrefixOf_iff_prefix.mpr hp] at h

/-- A line is a directive, or it is read without regard to any. -/
theorem read_cases (text : List Char) :
    (∃ rest, text = "input:".toList ++ rest ∧ Line.read text = Line.readInput rest) ∨
      (∃ rest, text = "blank:".toList ++ rest ∧ Line.read text = Line.readBlank rest) ∨
      (∃ rest, text = "start state:".toList ++ rest ∧ Line.read text = Line.readStart rest) ∨
      (∀ lead ∈ leads, ¬lead ++ [':'] <+: text) ∧
        (Line.read text = .table ∨ Line.read text = Line.readOther text) := by
  cases hi : after? "input:" text with
  | some rest => exact .inl ⟨rest, after?_eq_some hi, by simp only [Line.read, hi]⟩
  | none =>
    cases hb : after? "blank:" text with
    | some rest => exact .inr (.inl ⟨rest, after?_eq_some hb, by simp only [Line.read, hi, hb]⟩)
    | none =>
      cases hs : after? "start state:" text with
      | some rest =>
        exact .inr (.inr (.inl ⟨rest, after?_eq_some hs, by simp only [Line.read, hi, hb, hs]⟩))
      | none =>
        have hl : ∀ lead ∈ leads, ¬lead ++ [':'] <+: text := by
          intro lead hm
          simp only [leads, List.mem_cons, List.not_mem_nil, or_false] at hm
          rcases hm with rfl | rfl | rfl
          · exact not_prefix_of_after? hi
          · exact not_prefix_of_after? hb
          · exact not_prefix_of_after? hs
        refine .inr (.inr (.inr ⟨hl, ?_⟩))
        rw [read_of_no_lead hl]
        split
        next => exact .inl rfl
        next => exact .inr rfl

theorem readOther_cases (text : List Char) :
    (text.getLast? = some ':' ∧ '{' ∉ text ∧ trim text.dropLast ≠ [] ∧
        Line.readOther text = .header (trim text.dropLast)) ∨
      Line.readOther text = .rule (RuleLine.read text) ∨
      ∃ reason, Line.readOther text = .faulty reason := by
  unfold Line.readOther
  split
  next h =>
    split
    next => exact .inr (.inr ⟨_, rfl⟩)
    next hn => exact .inl ⟨h.1, h.2, fun he => hn he, rfl⟩
  next =>
    split
    next => exact .inr (.inl rfl)
    next => exact .inr (.inr ⟨_, rfl⟩)

theorem readInput_cases (text : List Char) :
    (∃ value, quotedValue? text = some value ∧ Line.readInput text = .input value) ∨
      ∃ reason, Line.readInput text = .faulty reason := by
  unfold Line.readInput
  split
  next value h => exact .inl ⟨value, h, rfl⟩
  next => exact .inr ⟨_, rfl⟩

theorem readBlank_cases (text : List Char) :
    (∃ c, quotedValue? text = some [c] ∧ Line.readBlank text = .blank c) ∨
      ∃ reason, Line.readBlank text = .faulty reason := by
  unfold Line.readBlank
  split
  next c h => exact .inl ⟨c, h, rfl⟩
  next => exact .inr ⟨_, rfl⟩
  next => exact .inr ⟨_, rfl⟩

theorem readStart_cases (text : List Char) :
    (∃ name, startName? text = some name ∧ Line.readStart text = .start name) ∨
      ∃ reason, Line.readStart text = .faulty reason := by
  unfold Line.readStart
  split
  next name h => exact .inl ⟨name, h, rfl⟩
  next => exact .inr ⟨_, rfl⟩

theorem quotedValue?_chars (h : quotedValue? text = some value) (hc : c ∈ value) :
    isQuote c = false ∧ c ∈ text := by
  unfold quotedValue? at h
  split at h
  next => simp at h
  next d rest ht =>
    split at h
    next =>
      cases Option.some.inj h
      refine ⟨by simpa using List.mem_takeWhile_imp hc, mem_of_mem_trim ?_⟩
      rw [ht]
      exact List.mem_cons_of_mem d ((List.takeWhile_sublist _).mem hc)
    next => simp at h

theorem startName?_chars (h : startName? text = some name) :
    name ≠ [] ∧ ∀ c ∈ name, isWord c = true := by
  unfold startName? at h
  split at h
  next => simp at h
  next he =>
    have hn : (trimLeft text).takeWhile isWord = name := Option.some.inj h
    refine ⟨fun hz => he (hn.trans hz), fun c hc => ?_⟩
    rw [← hn] at hc
    exact List.mem_takeWhile_imp hc

/-- What a line that has been read owes to its text. -/
def Line.Tells (text : List Char) : Line → Prop
  | .input value => ∀ c ∈ value, isQuote c = false ∧ c ∈ text
  | .blank c => isQuote c = false ∧ c ∈ text
  | .start name => name ≠ [] ∧ ∀ c ∈ name, isWord c = true
  | .header name =>
    (∀ lead ∈ leads, ¬lead ++ [':'] <+: text) ∧ text.getLast? = some ':' ∧ '{' ∉ text ∧
      name = trim text.dropLast ∧ name ≠ []
  | .rule body => body = RuleLine.read text
  | .table | .faulty _ => True

theorem read_tells (text : List Char) : (Line.read text).Tells text := by
  obtain ⟨rest, he, hr⟩ | ⟨rest, he, hr⟩ | ⟨rest, _, hr⟩ | ⟨hl, hr | hr⟩ := read_cases text
  · rw [hr]
    obtain ⟨value, hq, hv⟩ | ⟨_, hv⟩ := readInput_cases rest
    · rw [hv, he]
      intro c hc
      obtain ⟨hn, hm⟩ := quotedValue?_chars hq hc
      exact ⟨hn, List.mem_append_right _ hm⟩
    · rw [hv]
      trivial
  · rw [hr]
    obtain ⟨c, hq, hv⟩ | ⟨_, hv⟩ := readBlank_cases rest
    · obtain ⟨hn, hm⟩ := quotedValue?_chars hq (List.mem_singleton_self c)
      rw [hv, he]
      exact ⟨hn, List.mem_append_right _ hm⟩
    · rw [hv]
      trivial
  · rw [hr]
    obtain ⟨name, hn, hv⟩ | ⟨_, hv⟩ := readStart_cases rest
    · rw [hv]
      exact startName?_chars hn
    · rw [hv]
      trivial
  · rw [hr]
    trivial
  · rw [hr]
    obtain ⟨hc, hb, hn, hv⟩ | hv | ⟨_, hv⟩ := readOther_cases text
    · rw [hv]
      exact ⟨hl, hc, hb, rfl, hn⟩
    · rw [hv]
      rfl
    · rw [hv]
      trivial

/-- The parts of a rule line that has been read. -/
theorem ruleLine_read_eq_ok {line : RuleLine} (h : RuleLine.read text = .ok line) :
    ∃ options, splitSymbols text = .ok (line.symbols, options) ∧
      line.write = (Options.read options).write ∧
      (Options.read options).step = some (line.move, line.target) := by
  unfold RuleLine.read at h
  cases hs : splitSymbols text with
  | error reason => simp [hs, bind, Except.bind] at h
  | ok parts =>
    obtain ⟨symbols, options⟩ := parts
    simp only [hs, bind, Except.bind] at h
    split at h
    next => simp at h
    next move target hstep =>
      cases Except.ok.inj h
      exact ⟨options, rfl, rfl, hstep⟩

end TapeMachine.Source
