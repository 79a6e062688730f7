import TapeMachine.Proofs.Source.Readings
import TapeMachine.Proofs.Source.Targets

namespace TapeMachine.Source

open Text

variable {text part symbol key value target rest : List Char} {separator : Char} {move : Move}
variable {symbols others : List (List Char)} {options : List Char}

theorem trim_subset (text : List Char) : trim text ⊆ text := fun _ => mem_of_mem_trim

theorem unquote_subset (text : List Char) : unquote text ⊆ text := by
  refine List.Subset.trans ?_ (trim_subset text)
  unfold unquote
  split
  next => exact List.nil_subset _
  next c rest he =>
    rw [he]
    split
    next => exact List.Subset.trans (List.dropLast_subset rest) (List.subset_cons_self c rest)
    next => exact List.Subset.refl _

theorem atColon_cases (text : List Char) :
    (':' ∉ text ∧ atColon text = (text, none)) ∨
      ∃ key value, text = key ++ ':' :: value ∧ ':' ∉ key ∧ atColon text = (key, some value) := by
  by_cases h : ':' ∈ text
  · obtain ⟨key, value, he, hk⟩ := List.eq_append_cons_of_mem h
    exact .inr ⟨key, value, he, hk, by rw [he, atColon_append hk]⟩
  · exact .inl ⟨h, atColon_of_not_mem h⟩

/-- Each part starts outside quotes and has no separator there. -/
theorem mem_split (h : part ∈ split separator text) :
    ∃ before after, text = before ++ (part ++ after) ∧ openAfter none before = none ∧
      find? separator none part = none := by
  fun_induction split separator text with
  | case1 text hf =>
    rw [List.mem_singleton.mp h]
    exact ⟨[], [], by simp, rfl, hf⟩
  | case2 text i hi ih =>
    obtain ⟨he, hf, ho, hq⟩ := find?_eq_some hi
    rcases List.mem_cons.mp h with hp | hp
    · exact ⟨[], separator :: text.drop (i + 1), by rw [hp]; exact he, rfl, hp ▸ hf⟩
    · obtain ⟨before, after, hb, hn, hs⟩ := ih hp
      refine ⟨text.take i ++ separator :: before, after, ?_, ?_, hs⟩
      · rw [List.append_assoc, List.cons_append, ← hb]
        exact he
      · rw [openAfter_append, ho, openAfter_cons, afterChar_of_not_quote hq, hn]

theorem ofLetter?_eq_some {letter : Char} (h : Move.ofLetter? letter = some move) :
    letter = move.letter := by
  unfold Move.ofLetter? at h
  split at h <;> cases h <;> rfl

theorem read?_of_move_key (hk : ':' ∉ key) (hm : trim key = [move.letter])
    (hv : trim value ≠ []) :
    Clause.read? (key ++ ':' :: value) = some (.go move (firstWord (trim value))) := by
  have hw : [move.letter] ≠ "write".toList := by cases move <;> decide
  rw [read?_of_colon hk, if_neg hv, hm, if_neg hw]
  simp only [Move.ofLetter?_letter, Option.bind_some]

theorem read?_of_other_key (hk : ':' ∉ key) (hw : trim key ≠ "write".toList)
    (hm : ∀ move : Move, trim key ≠ [move.letter]) (value : List Char) :
    Clause.read? (key ++ ':' :: value) = none := by
  rw [read?_of_colon hk, if_neg hw]
  split
  next => rfl
  next =>
    split
    next letter hl =>
      cases ho : Move.ofLetter? letter with
      | none => rfl
      | some move => exact absurd (by rw [hl, ofLetter?_eq_some ho]) (hm move)
    next => rfl

/-- The two kinds of clause that have an effect. -/
theorem read?_eq_some_iff {clause : Clause} :
    Clause.read? part = some clause ↔
      ∃ key value, part = key ++ ':' :: value ∧ ':' ∉ key ∧ trim value ≠ [] ∧
        (trim key = "write".toList ∧ clause = .write (unquote (trim value)) ∨
          ∃ move : Move, trim key = [move.letter] ∧
            clause = .go move (firstWord (trim value))) := by
  constructor
  · intro h
    obtain ⟨hn, _⟩ | ⟨key, value, he, hk, _⟩ := atColon_cases part
    · simp [read?_of_no_colon hn] at h
    · rw [he, read?_of_colon hk] at h
      refine ⟨key, value, he, hk, ?_⟩
      split at h
      next => simp at h
      next hv =>
        refine ⟨hv, ?_⟩
        split at h
        next hw => exact .inl ⟨hw, (Option.some.inj h).symm⟩
        next =>
          split at h
          next letter hl =>
            obtain ⟨move, hm, hc⟩ := Option.bind_eq_some_iff.mp h
            exact .inr ⟨move, by rw [hl, ofLetter?_eq_some hm], (Option.some.inj hc).symm⟩
          next => simp at h
  · rintro ⟨key, value, rfl, hk, hv, ⟨hw, rfl⟩ | ⟨move, hm, rfl⟩⟩
    · rw [read?_of_colon hk, if_neg hv, if_pos hw]
    · exact read?_of_move_key hk hm hv

theorem read?_write_subset (h : Clause.read? part = some (.write symbol)) : symbol ⊆ part := by
  obtain ⟨key, value, he, _, _, ⟨_, hw⟩ | ⟨_, _, hg⟩⟩ := read?_eq_some_iff.mp h
  · cases hw
    intro c hc
    rw [he]
    exact List.mem_append_right _ (List.mem_cons_of_mem _
      (trim_subset value (unquote_subset _ hc)))
  · cases hg

theorem firstWord_trim (h : trim value ≠ []) :
    firstWord (trim value) <+: trim value ∧ firstWord (trim value) ≠ [] := by
  have hl : trimLeft (trim value) = trim value := trimLeft_eq_self fun _ => head?_trim
  rw [firstWord, hl]
  refine ⟨List.takeWhile_prefix _, ?_⟩
  obtain ⟨c, rest, he⟩ := List.exists_cons_of_ne_nil h
  have hc : isBlank c = false := head?_trim (by rw [he]; rfl)
  simp [he, hc]

/-- The name that a move goes to stands outside quotes after a letter and a colon. -/
theorem read?_go_target (h : Clause.read? part = some (.go move target)) :
    ∃ before after, part = before ++ (target ++ after) ∧ openAfter none before = none ∧
      target ≠ [] ∧ ∀ c ∈ target, isBlank c = false := by
  obtain ⟨key, value, he, _, hv, ⟨_, hw⟩ | ⟨_, hk, hg⟩⟩ := read?_eq_some_iff.mp h
  · cases hw
  cases hg
  obtain ⟨left, right, hs, hl, _⟩ := exists_trim value
  obtain ⟨before, after, hb, hbl, hal⟩ := exists_trim key
  obtain ⟨⟨rest, hr⟩, hne⟩ := firstWord_trim hv
  have hq : ∀ c ∈ key ++ ':' :: left, isQuote c = false := by
    intro c hc
    rcases List.mem_append.mp hc with hc | hc
    · rw [hb, hk] at hc
      simp only [List.mem_append, List.mem_singleton] at hc
      rcases hc with (hc | rfl) | hc
      · exact isQuote_of_isBlank (hbl c hc)
      · exact isQuote_letter move
      · exact isQuote_of_isBlank (hal c hc)
    · rcases List.mem_cons.mp hc with rfl | hc
      · decide
      · exact isQuote_of_isBlank (hl c hc)
  refine ⟨key ++ ':' :: left, rest ++ right, ?_, openAfter_of_no_quote hq, hne,
    fun c hc => isBlank_firstWord hc⟩
  rw [he]
  conv_lhs => rw [hs, ← hr]
  simp

theorem optionBody_cases (text : List Char) :
    ∃ body, body ⊆ text ∧ optionBody text = upTo '}' none body := by
  unfold optionBody
  split
  next rest he =>
    refine ⟨rest, fun c hc => trim_subset text ?_, rfl⟩
    rw [he]
    exact List.mem_cons_of_mem _ hc
  next => exact ⟨trim text, trim_subset text, rfl⟩

theorem read_write_subset (h : (Options.read text).write = some symbol) : symbol ⊆ text := by
  obtain ⟨clause, hc, hw⟩ := List.exists_of_findSome?_eq_some h
  obtain ⟨part, hp, hr⟩ := List.mem_filterMap.mp hc
  obtain ⟨body, hb, ho⟩ := optionBody_cases text
  obtain ⟨before, after, he, _⟩ := mem_split hp
  cases clause with
  | go => cases hw
  | write written =>
    cases hw
    intro c hm
    apply hb
    apply (ho ▸ upTo_prefix : optionBody text <+: body).subset
    rw [he]
    exact List.mem_append_right _ (List.mem_append_left _ (read?_write_subset hr hm))

/-- No name that a rule goes to has a blank, nor a comma or closing brace outside quotes. -/
theorem targetName_of_step (h : (Options.read text).step = some (move, target)) :
    TargetName target := by
  obtain ⟨clause, hc, hs⟩ := List.exists_of_findSome?_eq_some h
  obtain ⟨part, hp, hr⟩ := List.mem_filterMap.mp hc
  obtain ⟨body, _, ho⟩ := optionBody_cases text
  obtain ⟨before, after, he, hbo, hcomma⟩ := mem_split hp
  have hbrace : find? '}' none (optionBody text) = none := ho ▸ find?_upTo
  cases clause with
  | write => cases hs
  | go move target =>
    cases hs
    obtain ⟨left, right, hl, hlo, hne, hw⟩ := read?_go_target hr
    rw [he, find?_append_eq_none_iff, hbo, find?_append_eq_none_iff] at hbrace
    have hb := hbrace.2.1
    rw [hl, find?_append_eq_none_iff, hlo, find?_append_eq_none_iff] at hb hcomma
    exact ⟨hne, hw, hcomma.2.1, hb.2.1⟩

theorem afterSymbols_eq_ok (h : afterSymbols symbols text = .ok (others, options)) :
    others = symbols ∧ options ⊆ text := by
  unfold afterSymbols at h
  split at h
  next rest he =>
    cases h
    refine ⟨rfl, fun c hc => (List.dropWhile_sublist isBlank).subset ?_⟩
    rw [show List.dropWhile isBlank text = ':' :: options from he]
    exact List.mem_cons_of_mem _ hc
  next => cases h

/-- The three ways in which a line names its symbols. -/
theorem splitSymbols_cases (h : splitSymbols text = .ok (symbols, options)) :
    (text = [] ∧ symbols = [[]] ∧ options = []) ∨
      (∃ rest i, text = '[' :: rest ∧ symbols = (split ',' (rest.take i)).map unquote ∧
        options ⊆ rest.drop (i + 1)) ∨
      (∃ quote rest, text = quote :: rest ∧ isQuote quote = true ∧
        symbols = [rest.takeWhile (· ≠ quote)] ∧ options ⊆ (rest.dropWhile (· ≠ quote)).tail) ∨
      ∃ c rest, text = c :: rest ∧ isQuote c = false ∧
        symbols = [trim (atColon text).1] ∧ options = (atColon text).2.getD [] := by
  unfold splitSymbols at h
  split at h
  next =>
    cases h
    exact .inl ⟨rfl, rfl, rfl⟩
  next c rest =>
    split at h
    next hc =>
      split at h
      next => cases h
      next i hi =>
        obtain ⟨hs, ho⟩ := afterSymbols_eq_ok h
        exact .inr (.inl ⟨rest, i, by rw [hc], hs, ho⟩)
    next =>
      split at h
      next hq =>
        split at h
        next =>
          obtain ⟨hs, ho⟩ := afterSymbols_eq_ok h
          exact .inr (.inr (.inl ⟨c, rest, rfl, hq, hs, ho⟩))
        next => cases h
      next hq =>
        cases h
        exact .inr (.inr (.inr ⟨c, rest, rfl, by simpa using hq, rfl, rfl⟩))

/-- The symbols and the options are made of characters of the line. -/
theorem splitSymbols_subset (h : splitSymbols text = .ok (symbols, options)) :
    (∀ symbol ∈ symbols, symbol ⊆ text) ∧ options ⊆ text := by
  obtain ⟨rfl, rfl, rfl⟩ | ⟨rest, i, rfl, rfl, ho⟩ | ⟨quote, rest, rfl, _, rfl, ho⟩ |
    ⟨c, rest, _, _, rfl, rfl⟩ := splitSymbols_cases h
  · simp
  · refine ⟨fun symbol hs d hd => ?_, fun d hd => ?_⟩
    · obtain ⟨part, hp, rfl⟩ := List.mem_map.mp hs
      obtain ⟨before, after, he, _⟩ := mem_split hp
      have hm : d ∈ rest.take i := by
        rw [he]
        exact List.mem_append_right _ (List.mem_append_left _ (unquote_subset part hd))
      exact List.mem_cons_of_mem _ (List.take_subset i rest hm)
    · exact List.mem_cons_of_mem _ (List.drop_subset (i + 1) rest (ho hd))
  · refine ⟨fun symbol hs d hd => ?_, fun d hd => ?_⟩
    · rw [List.mem_singleton.mp hs] at hd
      exact List.mem_cons_of_mem _ ((List.takeWhile_sublist _).subset hd)
    · exact List.mem_cons_of_mem _
        ((List.dropWhile_sublist _).subset (List.mem_of_mem_tail (ho hd)))
  · obtain ⟨_, ha⟩ | ⟨key, value, he, _, ha⟩ := atColon_cases text
    · rw [ha]
      exact ⟨by simpa using trim_subset text, List.nil_subset _⟩
    · rw [ha, he]
      refine ⟨fun symbol hs d hd => ?_, fun d hd =>
        List.mem_append_right _ (List.mem_cons_of_mem _ hd)⟩
      rw [List.mem_singleton.mp hs] at hd
      exact List.mem_append_left _ (trim_subset key hd)

end TapeMachine.Source
