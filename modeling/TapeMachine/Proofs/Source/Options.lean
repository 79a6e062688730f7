import TapeMachine.Proofs.Source.Symbols

namespace TapeMachine.Source

open Text

variable {text value symbol target : List Char} {write : Option (List Char)} {move : Move}

def writeLead : List Char := ['w', 'r', 'i', 't', 'e', ':', ' ']

def writePart : Option (List Char) → List Char
  | none => []
  | some symbol => writeLead ++ (writeSymbol symbol ++ [',', ' '])

/-- The clauses of a rule, the value of the move being `value`. -/
def optionText (write : Option (List Char)) (move : Move) (value : List Char) : List Char :=
  writePart write ++ move.letter :: ':' :: value

/-- What a rule writes is scanned as one piece. -/
def SealedWrite (write : Option (List Char)) : Prop :=
  ∀ symbol, write = some symbol → Sealed (writeSymbol symbol)

theorem isBlank_letter (move : Move) : isBlank move.letter = false := by
  cases move <;> decide

theorem letter_ne (move : Move) {c : Char} (h : isSpecial c = true) : move.letter ≠ c := by
  rintro rfl
  cases move <;> exact absurd h (by decide)

theorem isQuote_letter (move : Move) : isQuote move.letter = false := by
  cases move <;> decide

theorem openAfter_writePart (h : SealedWrite write) : openAfter none (writePart write) = none := by
  cases write with
  | none => rfl
  | some symbol =>
    simp only [writePart, openAfter_append, (h symbol rfl).closed,
      show openAfter none writeLead = none from rfl]
    rfl

theorem find?_brace_writePart (h : SealedWrite write) :
    find? '}' none (writePart write) = none := by
  cases write with
  | none => rfl
  | some symbol =>
    rw [writePart, find?_append_eq_none_iff, show openAfter none writeLead = none from rfl,
      find?_append_eq_none_iff, (h symbol rfl).closed]
    exact ⟨by decide, (h symbol rfl).no_brace, by decide⟩

theorem stripComment_writePart (h : SealedWrite write) (b : Bool) :
    stripComment none b (writePart write) = writePart write := by
  cases write with
  | none => rfl
  | some symbol =>
    have hs : stripComment none true (writeSymbol symbol) = writeSymbol symbol :=
      (h symbol rfl).uncommented
    have hl : stripComment none b writeLead = writeLead :=
      stripComment_of_not_mem (by decide)
    have ho : openAfter none writeLead = none := rfl
    have he : endsBlank b writeLead = true := rfl
    rw [writePart, stripComment_append hl, ho, he, stripComment_append hs, (h symbol rfl).closed,
      stripComment_of_not_mem (by decide)]

theorem stripComment_optionText (h : SealedWrite write) (b : Bool) (value : List Char) :
    stripComment none b (optionText write move value) =
      optionText write move (stripComment none false value) := by
  have hl : isBlank move.letter = false := isBlank_letter move
  rw [optionText, stripComment_append (stripComment_writePart h b), openAfter_writePart h,
    stripComment_cons (isQuote_letter move) (letter_ne move (by decide)), hl,
    stripComment_cons (by decide) (by decide)]
  rfl

theorem openAfter_optionText (h : SealedWrite write) (move : Move) (value : List Char) :
    openAfter none (optionText write move value) = openAfter none value := by
  rw [optionText, openAfter_append, openAfter_writePart h, openAfter_cons,
    afterChar_of_not_quote (isQuote_letter move), openAfter_cons,
    afterChar_of_not_quote (by decide)]

theorem upTo_brace_optionText (h : SealedWrite write) (value : List Char) :
    upTo '}' none (optionText write move value) = optionText write move (upTo '}' none value) := by
  have hs : find? '}' none (writePart write ++ [move.letter, ':']) = none := by
    rw [find?_append_eq_none_iff, openAfter_writePart h]
    refine ⟨find?_brace_writePart h, find?_of_not_mem ?_⟩
    have := letter_ne move (c := '}') (by decide)
    simp [this.symm]
  have ho : openAfter none (writePart write ++ [move.letter, ':']) = none := by
    have := openAfter_optionText h move []
    rwa [optionText] at this
  have ha := upTo_append hs value
  rw [ho] at ha
  simpa [optionText] using ha

/-- The two clauses are split at the comma between them, and nowhere else. -/
theorem split_optionText (h : SealedWrite write) (hv : find? ',' none value = none) :
    split ',' (optionText write move value) =
      match write with
      | none => [move.letter :: ':' :: value]
      | some symbol => [writeLead ++ writeSymbol symbol, ' ' :: move.letter :: ':' :: value] := by
  have hm : find? ',' none (move.letter :: ':' :: value) = none := by
    have hn : ',' ∉ [move.letter, ':'] := by
      have := letter_ne move (c := ',') (by decide)
      simp [this.symm]
    have ho : openAfter none [move.letter, ':'] = none := by
      rw [openAfter_cons, afterChar_of_not_quote (isQuote_letter move)]
      rfl
    rw [show move.letter :: ':' :: value = [move.letter, ':'] ++ value from rfl,
      find?_append_eq_none_iff, ho]
    exact ⟨find?_of_not_mem hn, hv⟩
  cases write with
  | none => exact split_of_none hm
  | some symbol =>
    have hs := h symbol rfl
    have hl : openAfter none writeLead = none := rfl
    have hf : find? ',' none (writeLead ++ writeSymbol symbol) = none := by
      rw [find?_append_eq_none_iff, hl]
      exact ⟨by decide, hs.no_comma⟩
    have ho : openAfter none (writeLead ++ writeSymbol symbol) = none := by
      rw [openAfter_append, hl, hs.closed]
    have hb : find? ',' none (' ' :: move.letter :: ':' :: value) = none := by
      rw [show ' ' :: move.letter :: ':' :: value = [' '] ++ move.letter :: ':' :: value from rfl,
        find?_append_eq_none_iff]
      exact ⟨by decide, hm⟩
    have he : optionText (some symbol) move value =
        (writeLead ++ writeSymbol symbol) ++ ',' :: (' ' :: move.letter :: ':' :: value) := by
      simp [optionText, writePart]
    rw [he, split_append_cons (by decide) hf ho, split_of_none hb]

theorem atColon_append {left : List Char} (h : ':' ∉ left) (right : List Char) :
    atColon (left ++ ':' :: right) = (left, some right) := by
  have hl : ∀ c ∈ left, decide (c ≠ ':') = true := by
    intro c hc
    simpa using ne_of_mem_of_not_mem hc h
  rw [atColon, List.takeWhile_append_of_pos hl, List.dropWhile_append_of_pos hl]
  simp

theorem trim_cons_blank {c : Char} (h : isBlank c = true) : trim (c :: text) = trim text := by
  simp [trim, trimLeft, h]

theorem atColon_of_not_mem (h : ':' ∉ text) : atColon text = (text, none) := by
  have hc : ∀ c ∈ text, decide (c ≠ ':') = true := by
    intro c hc
    simpa using ne_of_mem_of_not_mem hc h
  rw [atColon, List.takeWhile_eq_self_iff.mpr hc, List.dropWhile_eq_nil_iff.mpr hc]
  rfl

theorem read?_of_no_colon (h : ':' ∉ text) : Clause.read? text = none := by
  rw [Clause.read?, atColon_of_not_mem h]
  rfl

/-- A clause goes by its key, unless its value is blank. -/
theorem read?_of_colon {key : List Char} (h : ':' ∉ key) (value : List Char) :
    Clause.read? (key ++ ':' :: value) =
      if trim value = [] then none
      else if trim key = "write".toList then some (.write (unquote (trim value)))
      else
        match trim key with
        | [letter] => (Move.ofLetter? letter).bind fun move =>
          some (.go move (firstWord (trim value)))
        | _ => none := by
  rw [Clause.read?, atColon_append h]
  by_cases hz : trim value = []
  · have hg : (guard (trim value ≠ []) : Option Unit) = none := by
      rw [guard, if_neg (not_not_intro hz)]
      rfl
    rw [if_pos hz]
    change (guard (trim value ≠ []) : Option Unit).bind _ = none
    rw [hg]
    rfl
  · have hg : (guard (trim value ≠ []) : Option Unit) = some () := by
      rw [guard, if_pos hz]
      rfl
    rw [if_neg hz]
    change (guard (trim value ≠ []) : Option Unit).bind _ = _
    rw [hg]
    rfl

/-- The value of a write clause counts unless it is blank. -/
theorem read?_write (value : List Char) :
    Clause.read? (writeLead ++ value) =
      if trim value = [] then none else some (.write (unquote value)) := by
  have hn : ':' ∉ "write".toList := by decide
  have hk : trim "write".toList = "write".toList := by decide
  have h := read?_of_colon hn (' ' :: value)
  rw [if_pos hk, trim_cons_blank (by decide), unquote_trim] at h
  exact h

theorem read?_go {lead : List Char} (h : ∀ c ∈ lead, isBlank c = true) (move : Move)
    (value : List Char) :
    Clause.read? (lead ++ move.letter :: ':' :: value) =
      if trim value = [] then none else some (.go move (firstWord (trim value))) := by
  have hn : ':' ∉ lead ++ [move.letter] := by
    intro hm
    rcases List.mem_append.mp hm with hl | hl
    · exact absurd (h _ hl) (by decide)
    · exact letter_ne move (by decide) (List.mem_singleton.mp hl).symm
  have hk : trim (lead ++ [move.letter]) = [move.letter] := by
    rw [trim_append_cons lead [] (isBlank_letter move), trimLeft_eq_nil_iff.mpr h]
    rfl
  have hw : [move.letter] ≠ "write".toList := by cases move <;> decide
  have hr := read?_of_colon hn value
  rw [hk, if_neg hw, List.append_assoc] at hr
  simp only [Move.ofLetter?_letter, Option.bind_some] at hr
  exact hr

theorem trim_writeSymbol_ne_nil (symbol : List Char) : trim (writeSymbol symbol) ≠ [] := by
  intro h
  have hb := trim_eq_nil_iff.mp h
  obtain ⟨he, _, c, hc, hn⟩ | ⟨quote, he, hq, _⟩ := writeSymbol_cases symbol
  · have := hb c (by rwa [he])
    simp [hn] at this
  · have := hb quote (by simp [he])
    simp [isBlank_quote hq] at this

/-- What the two clauses say, whatever text they were found in. -/
theorem read_of_optionBody (h : SealedWrite write) (hv : find? ',' none value = none)
    (hb : optionBody text = optionText write move value) :
    Options.read text =
      ⟨write.map fun symbol => unquote (writeSymbol symbol),
        if trim value = [] then none else some (move, firstWord (trim value))⟩ := by
  have hl : ∀ c ∈ [' '], isBlank c = true := by simp; decide
  rw [Options.read, hb, split_optionText h hv]
  cases write with
  | none =>
    have hg := read?_go (List.forall_mem_nil _) move value
    rw [List.nil_append] at hg
    by_cases hz : trim value = []
    · simp [hg, hz]
    · simp only [List.filterMap_cons, hg, if_neg hz]
      rfl
  | some symbol =>
    have hw := read?_write (writeSymbol symbol)
    rw [if_neg (trim_writeSymbol_ne_nil symbol)] at hw
    have hg := read?_go hl move value
    rw [List.singleton_append] at hg
    by_cases hz : trim value = []
    · simp only [List.filterMap_cons, hw, hg, if_pos hz]
      rfl
    · simp only [List.filterMap_cons, hw, hg, if_neg hz]
      rfl

theorem optionBody_eq {rest : List Char} (h : trim text = '{' :: rest) :
    optionBody text = upTo '}' none rest := by
  simp only [optionBody, h]
  rfl

theorem trim_open_brace (rest : List Char) : trim (' ' :: '{' :: rest) = '{' :: trimRight rest := by
  rw [trim_cons_blank (by decide), trim_cons _ (by decide)]

end TapeMachine.Source
