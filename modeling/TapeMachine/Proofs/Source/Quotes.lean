import TapeMachine.Source.Quotes

namespace TapeMachine.Source

open Text

variable {target separator quote : Char} {opened : Option Char} {b : Bool}
variable {text left right : List Char}

/-- The quote that is open after a text. -/
def openAfter (opened : Option Char) (text : List Char) : Option Char :=
  text.foldl afterChar opened

@[simp]
theorem openAfter_nil : openAfter opened [] = opened := rfl

@[simp]
theorem openAfter_cons (c : Char) :
    openAfter opened (c :: text) = openAfter (afterChar opened c) text := rfl

@[simp]
theorem openAfter_append :
    openAfter opened (left ++ right) = openAfter (openAfter opened left) right := by
  simp [openAfter]

theorem afterChar_of_not_quote {c : Char} (h : isQuote c = false) : afterChar none c = none := by
  simp [afterChar, h]

theorem openAfter_of_no_quote (h : ∀ c ∈ text, isQuote c = false) : openAfter none text = none := by
  induction text with
  | nil => rfl
  | cons c text ih =>
    rw [openAfter_cons, afterChar_of_not_quote (h c (by simp))]
    exact ih fun d hd => h d (List.mem_cons_of_mem c hd)

/-- A quote stays open until it occurs again. -/
theorem openAfter_of_not_mem (h : quote ∉ text) : openAfter (some quote) text = some quote := by
  induction text with
  | nil => rfl
  | cons c text ih =>
    obtain ⟨hc, ht⟩ := List.ne_and_not_mem_of_not_mem_cons h
    rw [openAfter_cons, afterChar, if_neg (Ne.symm hc)]
    exact ih ht

theorem find?_append :
    find? target opened (left ++ right) =
      (find? target opened left).or
        ((find? target (openAfter opened left) right).map (· + left.length)) := by
  induction left generalizing opened with
  | nil => simp [find?]
  | cons c left ih =>
    simp only [List.cons_append, find?, openAfter_cons, List.length_cons]
    split
    next => rfl
    next =>
      rw [ih]
      cases find? target (afterChar opened c) left with
      | some i => rfl
      | none =>
        cases find? target (openAfter (afterChar opened c) left) right with
        | some i => simp [Nat.add_assoc]
        | none => rfl

theorem find?_of_not_mem (h : target ∉ text) : find? target opened text = none := by
  induction text generalizing opened with
  | nil => rfl
  | cons c text ih =>
    obtain ⟨hc, ht⟩ := List.ne_and_not_mem_of_not_mem_cons h
    rw [find?, if_neg (fun hh => hc hh.2.2.symm), ih ht]
    rfl

theorem find?_append_eq_none_iff :
    find? target opened (left ++ right) = none ↔
      find? target opened left = none ∧ find? target (openAfter opened left) right = none := by
  simp [find?_append]

theorem find?_of_prefix (h : left <+: text) (hf : find? target opened text = none) :
    find? target opened left = none := by
  obtain ⟨right, rfl⟩ := h
  exact (find?_append_eq_none_iff.mp hf).1

/-- Inside a quote that does not close nothing is found. -/
theorem find?_of_open (h : quote ∉ text) : find? target (some quote) text = none := by
  induction text with
  | nil => rfl
  | cons c text ih =>
    obtain ⟨hc, ht⟩ := List.ne_and_not_mem_of_not_mem_cons h
    rw [find?, if_neg (by simp), afterChar, if_neg (Ne.symm hc), ih ht]
    rfl

theorem find?_cons_self (h : isQuote target = false) :
    find? target none (target :: text) = some 0 := by
  simp [find?, h]

/-- What is found stands outside quotes, and there is none before it. -/
theorem find?_eq_some {i : Nat} (h : find? target opened text = some i) :
    text = text.take i ++ target :: text.drop (i + 1) ∧
      find? target opened (text.take i) = none ∧ openAfter opened (text.take i) = none ∧
      isQuote target = false := by
  induction text generalizing opened i with
  | nil => simp [find?] at h
  | cons c text ih =>
    by_cases hc : opened = none ∧ isQuote c = false ∧ c = target
    · obtain ⟨rfl, hq, rfl⟩ := hc
      rw [find?_cons_self hq] at h
      cases h
      exact ⟨rfl, rfl, rfl, hq⟩
    · rw [find?, if_neg hc] at h
      obtain ⟨j, hj, rfl⟩ := Option.map_eq_some_iff.mp h
      obtain ⟨he, hf, ho, hq⟩ := ih hj
      refine ⟨?_, ?_, ho, hq⟩
      · rw [List.take_succ_cons, List.cons_append, List.drop_succ_cons, ← he]
      · rw [List.take_succ_cons, find?, if_neg hc, hf]
        rfl

/-- The text up to the first `target` outside quotes. -/
def upTo (target : Char) (opened : Option Char) (text : List Char) : List Char :=
  match find? target opened text with
  | some i => text.take i
  | none => text

theorem upTo_prefix : upTo target opened text <+: text := by
  unfold upTo
  split
  next => exact List.take_prefix _ _
  next => exact List.prefix_rfl

theorem upTo_of_none (h : find? target opened text = none) : upTo target opened text = text := by
  simp [upTo, h]

theorem upTo_append (h : find? target opened left = none) (right : List Char) :
    upTo target opened (left ++ right) = left ++ upTo target (openAfter opened left) right := by
  simp only [upTo, find?_append, h, Option.none_or]
  cases find? target (openAfter opened left) right with
  | none => rfl
  | some i => simp [Nat.add_comm i, List.take_length_add_append]

theorem upTo_cons_self (h : isQuote target = false) : upTo target none (target :: text) = [] := by
  simp [upTo, find?_cons_self h]

theorem find?_upTo : find? target opened (upTo target opened text) = none := by
  induction text generalizing opened with
  | nil => rfl
  | cons c text ih =>
    by_cases hc : opened = none ∧ isQuote c = false ∧ c = target
    · obtain ⟨rfl, hq, rfl⟩ := hc
      rw [upTo_cons_self hq]
      rfl
    · have hs : find? target opened [c] = none := by simp [find?, if_neg hc]
      have hu : upTo target opened (c :: text) = c :: upTo target (afterChar opened c) text :=
        upTo_append hs text
      rw [hu, find?, if_neg hc, ih]
      rfl

theorem split_of_none (h : find? separator none text = none) : split separator text = [text] := by
  rw [split]
  split
  next => rfl
  next i hi => simp [h] at hi

theorem split_append_cons (hq : isQuote separator = false)
    (hf : find? separator none left = none) (hc : openAfter none left = none) :
    split separator (left ++ separator :: right) = left :: split separator right := by
  have hi : find? separator none (left ++ separator :: right) = some left.length := by
    simp [find?_append, hf, hc, find?_cons_self hq]
  rw [split]
  split
  next hn => simp [hi] at hn
  next i hs =>
    have he : i = left.length := by simpa [hi] using hs.symm
    subst he
    simp

/-- The first part reaches to the first separator, and the rest is what follows it. -/
theorem split_eq_upTo_cons (separator : Char) (text : List Char) :
    ∃ rest, split separator text = upTo separator none text :: rest := by
  rw [split]
  split
  next h => exact ⟨[], by rw [upTo_of_none h]⟩
  next i h => exact ⟨split separator (text.drop (i + 1)), by simp [upTo, h]⟩

theorem split_ne_nil (separator : Char) (text : List Char) : split separator text ≠ [] := by
  obtain ⟨rest, hs⟩ := split_eq_upTo_cons separator text
  rw [hs]
  exact List.cons_ne_nil _ rest

/-- Whether the last character is a blank, `b` where there is none. -/
def endsBlank (b : Bool) (text : List Char) : Bool :=
  text.foldl (fun _ c => isBlank c) b

@[simp]
theorem endsBlank_nil : endsBlank b [] = b := rfl

@[simp]
theorem endsBlank_cons (c : Char) : endsBlank b (c :: text) = endsBlank (isBlank c) text := rfl

@[simp]
theorem endsBlank_append : endsBlank b (left ++ right) = endsBlank (endsBlank b left) right := by
  simp [endsBlank]

theorem stripComment_prefix : stripComment opened b text <+: text := by
  induction text generalizing opened b with
  | nil => exact List.prefix_rfl
  | cons c text ih =>
    unfold stripComment
    split
    next => exact List.nil_prefix
    next => exact (List.cons_prefix_cons).mpr ⟨rfl, ih⟩

theorem stripComment_append (h : stripComment opened b left = left) :
    stripComment opened b (left ++ right) =
      left ++ stripComment (openAfter opened left) (endsBlank b left) right := by
  induction left generalizing opened b with
  | nil => rfl
  | cons c left ih =>
    unfold stripComment at h
    split at h
    next => simp at h
    next hc =>
      have ht := List.tail_eq_of_cons_eq h
      rw [List.cons_append, stripComment, if_neg hc, ih ht]
      rfl

/-- What a comment leaves holds no comment. -/
theorem stripComment_stripComment :
    stripComment opened b (stripComment opened b text) = stripComment opened b text := by
  induction text generalizing opened b with
  | nil => rfl
  | cons c text ih =>
    by_cases hc : opened = none ∧ c = '#' ∧ b = true
    · simp [stripComment, hc]
    · have he : stripComment opened b (c :: text) =
          c :: stripComment (afterChar opened c) (isBlank c) text := by
        rw [stripComment, if_neg hc]
      rw [he, stripComment, if_neg hc, ih]

theorem stripComment_of_prefix (h : left <+: text) (hs : stripComment opened b text = text) :
    stripComment opened b left = left := by
  obtain ⟨right, rfl⟩ := h
  induction left generalizing opened b with
  | nil => rfl
  | cons c left ih =>
    rw [List.cons_append, stripComment] at hs
    split at hs
    next => simp at hs
    next hc =>
      rw [stripComment, if_neg hc, ih (List.tail_eq_of_cons_eq hs)]

theorem stripComment_of_not_mem (h : '#' ∉ text) : stripComment opened b text = text := by
  induction text generalizing opened b with
  | nil => rfl
  | cons c text ih =>
    obtain ⟨hc, ht⟩ := List.ne_and_not_mem_of_not_mem_cons h
    rw [stripComment, if_neg (fun hh => hc hh.2.1.symm), ih ht]

theorem stripComment_of_open (h : quote ∉ text) :
    stripComment (some quote) b text = text := by
  induction text generalizing b with
  | nil => rfl
  | cons c text ih =>
    obtain ⟨hc, ht⟩ := List.ne_and_not_mem_of_not_mem_cons h
    rw [stripComment, if_neg (by simp), afterChar, if_neg (Ne.symm hc), ih ht]

/-- A character that is no quote and opens no comment is passed over. -/
theorem stripComment_cons {c : Char} (hq : isQuote c = false) (hc : c ≠ '#') (b : Bool)
    (text : List Char) :
    stripComment none b (c :: text) = c :: stripComment none (isBlank c) text := by
  rw [stripComment, if_neg (fun hh => hc hh.2.1), afterChar_of_not_quote hq]

/-- A comment opens after a blank only. -/
theorem stripComment_of_no_blank (opened : Option Char) (h : ∀ c ∈ text, isBlank c = false) :
    stripComment opened false text = text := by
  induction text generalizing opened with
  | nil => rfl
  | cons c text ih =>
    rw [stripComment, if_neg (by simp), h c (by simp),
      ih _ fun d hd => h d (List.mem_cons_of_mem c hd)]

end TapeMachine.Source
