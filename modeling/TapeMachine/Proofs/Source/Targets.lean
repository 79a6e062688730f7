import TapeMachine.Proofs.Source.Options

namespace TapeMachine.Source

open Text

variable {text target : List Char} {write : Option (List Char)} {move : Move}

/-- A name that some rule goes to. -/
structure TargetName (target : List Char) : Prop where
  ne_nil : target ≠ []
  no_blank : ∀ c ∈ target, isBlank c = false
  no_comma : find? ',' none target = none
  no_brace : find? '}' none target = none

/-- What is left of a text that follows an opening brace when comment and blanks are gone. -/
def remainder (text : List Char) : List Char :=
  trimRight (stripComment none false text)

/-- What a rule writes after its opening brace. -/
def optionLine (write : Option (List Char)) (move : Move) (target : List Char) : List Char :=
  optionText write move (' ' :: (target ++ ['}']))

theorem trimRight_optionText (write : Option (List Char)) (move : Move) (value : List Char) :
    trimRight (optionText write move value) = optionText write move (trimRight value) := by
  have ht := trimRight_append_cons (writePart write ++ [move.letter]) value
    (show isBlank ':' = false by decide)
  simpa [optionText] using ht

theorem stripComment_target (h : TargetName target) :
    stripComment none true (target ++ ['}']) =
      if target.head? = some '#' then [] else target ++ ['}'] := by
  cases target with
  | nil => exact absurd rfl h.ne_nil
  | cons c rest =>
    have hb : ∀ d ∈ rest ++ ['}'], isBlank d = false := by
      intro d hd
      rcases List.mem_append.mp hd with hd | hd
      · exact h.no_blank d (List.mem_cons_of_mem c hd)
      · rw [List.mem_singleton.mp hd]
        decide
    have hc : isBlank c = false := h.no_blank c (by simp)
    by_cases hh : c = '#'
    · simp [stripComment, hh]
    · simp [stripComment, hh, hc, stripComment_of_no_blank _ hb]

/-- Of the value of the move there remains what no comment takes away. -/
theorem remainder_optionLine (h : SealedWrite write) (ht : TargetName target) (move : Move) :
    remainder (optionLine write move target) =
      optionText write move (if target.head? = some '#' then [] else ' ' :: (target ++ ['}'])) := by
  have hs : stripComment none false (' ' :: (target ++ ['}'])) =
      ' ' :: stripComment none true (target ++ ['}']) :=
    stripComment_cons (by decide) (by decide) _ _
  have hr : trimRight (' ' :: (target ++ ['}'])) = ' ' :: (target ++ ['}']) :=
    trimRight_append_cons (' ' :: target) [] (by decide)
  rw [remainder, optionLine, stripComment_optionText h, trimRight_optionText, hs,
    stripComment_target ht]
  split
  next => rfl
  next => rw [hr]

theorem optionBody_remainder (text : List Char) :
    optionBody (' ' :: '{' :: remainder text) = upTo '}' none (remainder text) := by
  have ht : trimRight (remainder text) = remainder text := List.rdropWhile_idempotent _ _
  rw [optionBody_eq (trim_open_brace _), ht]

/-- What is read of a target with the brace after it: a quote left open takes the brace in. -/
def targetRead (target : List Char) : List Char :=
  target ++ if openAfter none target = none then [] else ['}']

theorem targetRead_ne_nil (h : TargetName target) : targetRead target ≠ [] := by
  simp [targetRead, h.ne_nil]

theorem targetRead_no_blank (h : TargetName target) :
    ∀ c ∈ targetRead target, isBlank c = false := by
  intro c hc
  rcases List.mem_append.mp hc with hc | hc
  · exact h.no_blank c hc
  · split at hc
    next => simp at hc
    next =>
      rw [List.mem_singleton.mp hc]
      decide

theorem targetRead_eq_iff : targetRead target = target ↔ openAfter none target = none := by
  rw [targetRead]
  split
  next ho => simp [ho]
  next ho => simp [ho]

theorem find?_comma_targetRead (h : TargetName target) :
    find? ',' none (' ' :: targetRead target) = none := by
  rw [targetRead, ← List.singleton_append, find?_append_eq_none_iff, find?_append_eq_none_iff]
  refine ⟨by decide, h.no_comma, find?_of_not_mem ?_⟩
  split <;> decide

theorem trim_targetRead (h : TargetName target) :
    trim (' ' :: targetRead target) = targetRead target := by
  have hb := targetRead_no_blank h
  rw [trim_cons_blank (by decide), trim_eq_self_iff]
  exact ⟨fun c hc => hb c (List.mem_of_head? hc), fun c hc => hb c (List.mem_of_getLast? hc)⟩

theorem upTo_brace_target (h : TargetName target) :
    upTo '}' none (' ' :: (target ++ ['}'])) = ' ' :: targetRead target := by
  have hf : find? '}' none (' ' :: target) = none := by
    rw [← List.singleton_append, find?_append_eq_none_iff]
    exact ⟨by decide, h.no_brace⟩
  have ho : openAfter none (' ' :: target) = openAfter none target := by
    rw [openAfter_cons, afterChar_of_not_quote (by decide)]
  have hu := upTo_append hf ['}']
  rw [ho] at hu
  rw [← List.cons_append, hu, targetRead, List.cons_append]
  congr 2
  cases openAfter none target with
  | none => rfl
  | some quote => rfl

/-- A comment takes the target away. -/
theorem read_optionLine (h : SealedWrite write) (ht : TargetName target) :
    Options.read (' ' :: '{' :: remainder (optionLine write move target)) =
      ⟨write.map fun symbol => unquote (writeSymbol symbol),
        if target.head? = some '#' then none else some (move, targetRead target)⟩ := by
  have hr := congrArg (upTo '}' none) (remainder_optionLine h ht move)
  have hb := (optionBody_remainder (optionLine write move target)).trans hr
  rw [upTo_brace_optionText h] at hb
  split at hb
  next hc =>
    rw [upTo_of_none rfl] at hb
    rw [read_of_optionBody h rfl hb, if_pos hc, if_pos (by rfl)]
  next hc =>
    rw [upTo_brace_target ht] at hb
    rw [read_of_optionBody h (find?_comma_targetRead ht) hb, trim_targetRead ht,
      if_neg (targetRead_ne_nil ht), if_neg hc, firstWord_eq_self (targetRead_no_blank ht)]

theorem withoutComment_target (h : TargetName target) :
    withoutComment target = target ↔ target.head? ≠ some '#' := by
  cases target with
  | nil => exact absurd rfl h.ne_nil
  | cons c rest =>
    have hb := stripComment_of_no_blank (afterChar none c)
      fun d hd => h.no_blank d (List.mem_cons_of_mem c hd)
    simp only [withoutComment, stripComment, h.no_blank c (by simp), hb]
    simp

/-- A target is read back where it is written if it is scanned as one piece. -/
theorem step_optionLine_iff (h : SealedWrite write) (ht : TargetName target) :
    (Options.read (' ' :: '{' :: remainder (optionLine write move target))).step =
      some (move, target) ↔ Sealed target := by
  rw [read_optionLine h ht, sealed_iff, withoutComment_target ht]
  by_cases hc : target.head? = some '#'
  · simp [hc]
  · simp [hc, targetRead_eq_iff, ht.no_comma, ht.no_brace]

/-- Where target and symbol are both scanned as one piece the options are read back as they were. -/
theorem read_optionLine_of_sealed
    (hw : ∀ symbol, write = some symbol → Sealed (writeSymbol symbol) ∧ KeepsBlanks symbol)
    (ht : TargetName target) (hs : Sealed target) :
    Options.read (' ' :: '{' :: remainder (optionLine write move target)) =
      ⟨write, some (move, target)⟩ := by
  have hsw : SealedWrite write := fun symbol he => (hw symbol he).1
  have hstep := (@step_optionLine_iff _ _ move hsw ht).mpr hs
  have hwrite : (Options.read (' ' :: '{' :: remainder (optionLine write move target))).write =
      write := by
    rw [read_optionLine hsw ht]
    cases write with
    | none => rfl
    | some symbol => simp [unquote_writeSymbol (hw symbol rfl).2]
  exact congrArg₂ Options.mk hwrite hstep

end TapeMachine.Source
