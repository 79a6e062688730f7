import TapeMachine.Proofs.Source.Splitting

namespace TapeMachine.Source

open Text

variable {α β γ : Type} {gives : α → β → Prop} {given? : α → Option β}
variable {text other clause key value symbol : List Char} {clauses others : List (List Char)}
variable {parts : List (List Char)} {step : Move × List Char} {target separator : Char}

/-- The first of what members of a list give, if one of them gives anything. -/
def FirstOf (gives : α → β → Prop) (xs : List α) : Option β → Prop
  | none => ∀ x ∈ xs, ∀ b, ¬gives x b
  | some b => ∃ before x after, xs = before ++ x :: after ∧ gives x b ∧
      ∀ y ∈ before, ∀ c, ¬gives y c

theorem firstOf_findSome? (h : ∀ x b, gives x b ↔ given? x = some b) (xs : List α) :
    FirstOf gives xs (xs.findSome? given?) := by
  have hnone : ∀ x, given? x = none → ∀ b, ¬gives x b := by
    intro x hx b hb
    rw [h, hx] at hb
    cases hb
  cases hf : xs.findSome? given? with
  | none => exact fun x hx => hnone x (List.findSome?_eq_none_iff.mp hf x hx)
  | some b =>
    obtain ⟨before, x, after, he, hx, hb⟩ := List.findSome?_eq_some_iff.mp hf
    exact ⟨before, x, after, he, (h x b).mpr hx, fun y hy => hnone y (hb y hy)⟩

theorem findSome?_filterMap (f : α → Option β) (g : β → Option γ) (xs : List α) :
    (xs.filterMap f).findSome? g = xs.findSome? fun x => (f x).bind g := by
  induction xs with
  | nil => rfl
  | cons x xs ih =>
    cases hx : f x with
    | none => simp [hx, ih]
    | some b => simp [hx, ih, List.findSome?_cons]

/-- Members that give nothing can be left out. -/
theorem findSome?_filter {kept : α → Bool} (h : ∀ x b, given? x = some b → kept x = true)
    (xs : List α) : (xs.filter kept).findSome? given? = xs.findSome? given? := by
  induction xs with
  | nil => rfl
  | cons x xs ih =>
    cases hx : given? x with
    | none =>
      cases hk : kept x with
      | false => simp [hk, hx, ih]
      | true => simp [hk, hx, ih]
    | some b => simp [h x b hx, hx]

/-- What a clause supplies under a key: what stands behind its first colon, if that is not blank. -/
def Supplies (key value clause : List Char) : Prop :=
  ∃ left right, clause = left ++ ':' :: right ∧ ':' ∉ left ∧ trim left = key ∧
    trim right = value ∧ value ≠ []

def Writes (clause symbol : List Char) : Prop :=
  ∃ value, Supplies "write".toList value clause ∧ symbol = unquote value

def Moves (clause : List Char) (step : Move × List Char) : Prop :=
  ∃ value, Supplies [step.1.letter] value clause ∧ step.2 = firstWord value

def writtenIn? (clause : List Char) : Option (List Char) :=
  (Clause.read? clause).bind Clause.written?

def stepIn? (clause : List Char) : Option (Move × List Char) :=
  (Clause.read? clause).bind Clause.step?

theorem writes_iff : Writes clause symbol ↔ writtenIn? clause = some symbol := by
  rw [writtenIn?, Option.bind_eq_some_iff]
  constructor
  · rintro ⟨value, ⟨left, right, he, hl, hk, rfl, hv⟩, rfl⟩
    exact ⟨_, read?_eq_some_iff.mpr ⟨left, right, he, hl, hv, .inl ⟨hk, rfl⟩⟩, rfl⟩
  · rintro ⟨said, hr, hs⟩
    obtain ⟨left, right, he, hl, hv, ⟨hk, rfl⟩ | ⟨move, -, rfl⟩⟩ := read?_eq_some_iff.mp hr
    · exact ⟨trim right, ⟨left, right, he, hl, hk, rfl, hv⟩, (Option.some.inj hs).symm⟩
    · cases hs

theorem moves_iff : Moves clause step ↔ stepIn? clause = some step := by
  rw [stepIn?, Option.bind_eq_some_iff]
  constructor
  · rintro ⟨value, ⟨left, right, he, hl, hk, rfl, hv⟩, hw⟩
    refine ⟨_, read?_eq_some_iff.mpr ⟨left, right, he, hl, hv, .inr ⟨step.1, hk, rfl⟩⟩, ?_⟩
    rw [← hw]
    rfl
  · rintro ⟨said, hr, hs⟩
    obtain ⟨left, right, he, hl, hv, ⟨-, rfl⟩ | ⟨move, hk, rfl⟩⟩ := read?_eq_some_iff.mp hr
    · cases hs
    · cases hs
      exact ⟨trim right, ⟨left, right, he, hl, hk, rfl, hv⟩, rfl⟩

instance : DecidablePred fun clause => ∃ symbol, Writes clause symbol := fun clause =>
  decidable_of_iff ((writtenIn? clause).isSome = true) <| by
    rw [Option.isSome_iff_exists]
    exact exists_congr fun _ => writes_iff.symm

instance : DecidablePred fun clause => ∃ step, Moves clause step := fun clause =>
  decidable_of_iff ((stepIn? clause).isSome = true) <| by
    rw [Option.isSome_iff_exists]
    exact exists_congr fun _ => moves_iff.symm

/-- A clause without a colon, with nothing behind it, or under a key that has no meaning. -/
inductive IdleClause : List Char → Prop
  | colonless {clause : List Char} (h : ':' ∉ clause) : IdleClause clause
  | blank {key value : List Char} (hk : ':' ∉ key) (hv : trim value = []) :
      IdleClause (key ++ ':' :: value)
  | otherKey {key value : List Char} (hk : ':' ∉ key) (hw : trim key ≠ "write".toList)
      (hm : ∀ move : Move, trim key ≠ [move.letter]) : IdleClause (key ++ ':' :: value)

/-- The text of options in braces: blanks before them, whatever follows, and between the braces
clauses with closed quotes and with neither comma nor closing brace outside them. -/
structure ClauseList (clauses : List (List Char)) (text : List Char) : Prop where
  closed : ∀ clause ∈ clauses, openAfter none clause = none
  no_comma : ∀ clause ∈ clauses, ∀ i, ¬Bare ',' none clause i
  no_brace : ∀ clause ∈ clauses, ∀ i, ¬Bare '}' none clause i
  braced : ∃ before after, (∀ c ∈ before, isBlank c = true) ∧
    text = before ++ '{' :: ([','].intercalate clauses ++ '}' :: after)

theorem clauseList_of_scanned {before after : List Char}
    (h : ∀ clause ∈ clauses, openAfter none clause = none ∧ find? ',' none clause = none ∧
      find? '}' none clause = none)
    (hb : ∀ c ∈ before, isBlank c = true) :
    ClauseList clauses (before ++ '{' :: ([','].intercalate clauses ++ '}' :: after)) where
  closed := fun clause hc => (h clause hc).1
  no_comma := fun clause hc => (find?_eq_none_iff (by decide)).mp (h clause hc).2.1
  no_brace := fun clause hc => (find?_eq_none_iff (by decide)).mp (h clause hc).2.2
  braced := ⟨before, after, hb, rfl⟩

/-- Two lists have the same clauses that write, in the same order, and the same that move. -/
structure SameEffects (clauses others : List (List Char)) : Prop where
  writes : others.filter (fun clause => ∃ symbol, Writes clause symbol) =
    clauses.filter fun clause => ∃ symbol, Writes clause symbol
  moves : others.filter (fun clause => ∃ step, Moves clause step) =
    clauses.filter fun clause => ∃ step, Moves clause step

/-- Between parts with closed quotes a separator is found outside quotes, other characters are
not. -/
theorem find?_intercalate (hq : isQuote separator = false) (hne : target ≠ separator)
    (hf : ∀ part ∈ parts, find? target none part = none)
    (hc : ∀ part ∈ parts, openAfter none part = none) :
    find? target none ([separator].intercalate parts) = none ∧
      openAfter none ([separator].intercalate parts) = none := by
  induction parts with
  | nil => exact ⟨rfl, rfl⟩
  | cons part parts ih =>
    have hpart := hf part List.mem_cons_self
    have hclosed := hc part List.mem_cons_self
    cases parts with
    | nil =>
      rw [List.intercalate_singleton]
      exact ⟨hpart, hclosed⟩
    | cons next rest =>
      obtain ⟨hfr, hcr⟩ := ih (fun other ho => hf other (List.mem_cons_of_mem part ho))
        fun other ho => hc other (List.mem_cons_of_mem part ho)
      have ho : openAfter none [separator] = none := by
        rw [openAfter_cons, afterChar_of_not_quote hq, openAfter_nil]
      have hs : find? target none [separator] = none :=
        find?_of_not_mem (by simpa using hne)
      rw [List.intercalate_cons_cons]
      simp only [find?_append_eq_none_iff, openAfter_append, hclosed, ho]
      exact ⟨⟨⟨hpart, hs⟩, hfr⟩, hcr⟩

/-- What stands in the braces, cut at the commas. -/
theorem ClauseList.split_optionBody (h : ClauseList clauses text) :
    split ',' (optionBody text) = if clauses = [] then [[]] else clauses := by
  obtain ⟨before, after, hb, rfl⟩ := h.braced
  have hcomma : isQuote ',' = false := by decide
  have hbrace : isQuote '}' = false := by decide
  have hbody := @find?_intercalate _ '}' _ hcomma (by decide)
    (fun clause hm => (find?_eq_none_iff hbrace).mpr (h.no_brace clause hm)) h.closed
  have htrim : trim (before ++ '{' :: ([','].intercalate clauses ++ '}' :: after)) =
      '{' :: ([','].intercalate clauses ++ '}' :: trimRight after) := by
    rw [trim_blank_append hb, trim_cons _ (by decide), trimRight_append_cons _ _ (by decide)]
  rw [optionBody_eq htrim, upTo_append hbody.1, hbody.2, upTo_cons_self hbrace, List.append_nil]
  split
  next he =>
    subst he
    exact split_of_none rfl
  next hne =>
    exact split_intercalate hcomma hne
      (fun clause hm => (find?_eq_none_iff hcomma).mpr (h.no_comma clause hm))
      fun clause hm => h.closed clause (List.dropLast_subset _ hm)

theorem ClauseList.read_eq (h : ClauseList clauses text) :
    Options.read text = ⟨clauses.findSome? writtenIn?, clauses.findSome? stepIn?⟩ := by
  simp only [Options.read, findSome?_filterMap, h.split_optionBody]
  split
  next he =>
    subst he
    rfl
  next => rfl

theorem SameEffects.findSome?_eq (h : SameEffects clauses others) :
    others.findSome? writtenIn? = clauses.findSome? writtenIn? ∧
      others.findSome? stepIn? = clauses.findSome? stepIn? := by
  have hwrites := @findSome?_filter _ _ writtenIn? (fun clause => ∃ symbol, Writes clause symbol)
    fun clause symbol hw => decide_eq_true ⟨symbol, writes_iff.mpr hw⟩
  have hmoves := @findSome?_filter _ _ stepIn? (fun clause => ∃ step, Moves clause step)
    fun clause step hm => decide_eq_true ⟨step, moves_iff.mpr hm⟩
  constructor
  · rw [← hwrites others, h.writes, hwrites]
  · rw [← hmoves others, h.moves, hmoves]

theorem IdleClause.read?_eq_none (h : IdleClause clause) : Clause.read? clause = none := by
  cases h with
  | colonless h => exact read?_of_no_colon h
  | blank hk hv => rw [read?_of_colon hk, if_pos hv]
  | otherKey hk hw hm => exact read?_of_other_key hk hw hm _

/-- An idle clause makes no difference. -/
theorem IdleClause.sameEffects (h : IdleClause clause) (left right : List (List Char)) :
    SameEffects (left ++ clause :: right) (left ++ right) := by
  have hw : ¬∃ symbol, Writes clause symbol := by
    rintro ⟨symbol, hs⟩
    rw [writes_iff, writtenIn?, h.read?_eq_none] at hs
    cases hs
  have hm : ¬∃ step, Moves clause step := by
    rintro ⟨step, hs⟩
    rw [moves_iff, stepIn?, h.read?_eq_none] at hs
    cases hs
  constructor
  · rw [List.filter_append, List.filter_append, List.filter_cons_of_neg (by simpa using hw)]
  · rw [List.filter_append, List.filter_append, List.filter_cons_of_neg (by simpa using hm)]

theorem ClauseList.read_congr (h : ClauseList clauses text) (ho : ClauseList others other)
    (hs : SameEffects clauses others) : Options.read other = Options.read text := by
  obtain ⟨hw, hm⟩ := hs.findSome?_eq
  rw [ho.read_eq, h.read_eq, hw, hm]

/-- Of a list of clauses in braces the first that writes counts and the first that moves. Neither
idle clauses nor the order between the two kinds have a say. -/
theorem read_clause_list (h : ClauseList clauses text) :
    FirstOf Writes clauses (Options.read text).write ∧
      FirstOf Moves clauses (Options.read text).step ∧
      (∀ others other, ClauseList others other → SameEffects clauses others →
        Options.read other = Options.read text) ∧
      ∀ left idle right other, clauses = left ++ idle :: right → IdleClause idle →
        ClauseList (left ++ right) other → Options.read other = Options.read text := by
  refine ⟨?_, ?_, fun others other ho hs => h.read_congr ho hs, ?_⟩
  · rw [h.read_eq]
    exact firstOf_findSome? (fun clause symbol => @writes_iff clause symbol) clauses
  · rw [h.read_eq]
    exact firstOf_findSome? (fun clause step => @moves_iff clause step) clauses
  · rintro left idle right other rfl hi ho
    exact h.read_congr ho (hi.sameEffects left right)

/-- A quoted colon is written, the next state has a comma and a closing brace in quotes, an empty
clause comes before it and a second move after it. -/
theorem read_clause_list_quoted :
    let write := ['w', 'r', 'i', 't', 'e', ':', '\'', ':', '\'']
    let idle := ['R', ' ', ':', ' ']
    let move := ['N', ':', '\'', ',', '}', '\'', ' ', 'q']
    let late := ['L', ':', 'q']
    let braced (clauses : List (List Char)) := '{' :: ([','].intercalate clauses ++ ['}', ',', ' '])
    ClauseList [write, idle, move, late] (' ' :: braced [write, idle, move, late]) ∧
      IdleClause idle ∧ ClauseList [move, late, write] (braced [move, late, write]) ∧
      SameEffects [write, idle, move, late] [move, late, write] ∧
      FirstOf Writes [write, idle, move, late] (some [':']) ∧
      FirstOf Moves [write, idle, move, late] (some (.stay, ['\'', ',', '}', '\''])) ∧
      Options.read (braced [move, late, write]) =
        Options.read (' ' :: braced [write, idle, move, late]) := by
  intro write idle move late braced
  have htext : ClauseList [write, idle, move, late] (' ' :: braced [write, idle, move, late]) :=
    @clauseList_of_scanned _ [' '] [',', ' '] (by decide) (List.forall_mem_singleton.mpr rfl)
  have hother : ClauseList [move, late, write] (braced [move, late, write]) :=
    @clauseList_of_scanned _ [] [',', ' '] (by decide) (List.forall_mem_nil _)
  have hidle : IdleClause idle := @IdleClause.blank ['R', ' '] [' '] (by decide) (by decide)
  have heffects : SameEffects [write, idle, move, late] [move, late, write] :=
    ⟨by decide, by decide⟩
  have hread : Options.read (' ' :: braced [write, idle, move, late]) =
      ⟨some [':'], some (.stay, ['\'', ',', '}', '\''])⟩ :=
    htext.read_eq.trans (by decide)
  obtain ⟨hwrites, hmoves, hsame, -⟩ := read_clause_list htext
  rw [hread] at hwrites hmoves
  exact ⟨htext, hidle, hother, heffects, hwrites, hmoves, hsame _ _ hother heffects⟩

end TapeMachine.Source
