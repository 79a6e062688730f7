import TapeMachine.Text.Lines

namespace TapeMachine.Text

variable {text line : List Char} {c : Char}

theorem lines_append_newline (h : ∀ c ∈ line, isLineEnd c = false) (rest : List Char) :
    lines (line ++ '\n' :: rest) = line :: lines rest := by
  induction line with
  | nil => rfl
  | cons c line ih =>
    have hc := h c (by simp)
    have hr : c ≠ '\r' := by
      intro he
      subst he
      exact absurd hc (by decide)
    have ht := ih fun d hd => h d (List.mem_cons_of_mem c hd)
    rw [List.cons_append, lines.eq_3 _ _ (fun _ he => absurd he hr), ht]
    simp [hc, consLine]

/-- Lines that hold no line end are found again where each has been closed by one. -/
theorem lines_flatMap_newline {written : List (List Char)}
    (h : ∀ line ∈ written, ∀ c ∈ line, isLineEnd c = false) :
    lines (written.flatMap fun line => line ++ ['\n']) = written := by
  induction written with
  | nil => rfl
  | cons line written ih =>
    have hl := h line (by simp)
    have ht := ih fun other ho => h other (List.mem_cons_of_mem line ho)
    rw [List.flatMap_cons, List.append_assoc, List.singleton_append, lines_append_newline hl, ht]

theorem mem_consLine {α : Type} {a : α} {parts : List (List α)} {part : List α}
    (h : part ∈ consLine a parts) :
    ∃ tail, part = a :: tail ∧ (tail = [] ∨ tail ∈ parts) ∨ part ∈ parts := by
  cases parts with
  | nil =>
    have he : part = [a] := by simpa [consLine] using h
    exact ⟨[], .inl ⟨he, .inl rfl⟩⟩
  | cons first parts =>
    rcases List.mem_cons.mp h with he | ht
    · exact ⟨first, .inl ⟨he, .inr (by simp)⟩⟩
    · exact ⟨[], .inr (List.mem_cons_of_mem first ht)⟩

theorem isLineEnd_of_mem_lines (h : line ∈ lines text) (hc : c ∈ line) : isLineEnd c = false := by
  fun_induction lines text generalizing line c with
  | case1 => simp at h
  | case2 rest ih =>
    rcases List.mem_cons.mp h with he | ht
    · simp [he] at hc
    · exact ih ht hc
  | case3 d rest _ hd ih =>
    rcases List.mem_cons.mp h with he | ht
    · simp [he] at hc
    · exact ih ht hc
  | case4 d rest _ hd ih =>
    obtain ⟨tail, ⟨he, ht⟩ | ht⟩ := mem_consLine h
    · subst he
      rcases List.mem_cons.mp hc with hcd | hct
      · rw [hcd]
        simpa using hd
      · rcases ht with ht | ht
        · simp [ht] at hct
        · exact ih ht hct
    · exact ih ht hc

/-- A text has these lines. Where the last of them is empty nothing needs to close it. -/
def HasLines (text : String) (written : List (List Char)) : Prop :=
  lines text.toList = written ∨ lines text.toList ++ [[]] = written

theorem exists_hasLines {written : List (List Char)}
    (h : ∀ line ∈ written, ∀ c ∈ line, isLineEnd c = false) : ∃ text, HasLines text written := by
  refine ⟨String.ofList (written.flatMap fun line => line ++ ['\n']), .inl ?_⟩
  rw [String.toList_ofList, lines_flatMap_newline h]

/-- What joined texts are made of comes from one of them or from what joins them. -/
theorem mem_intercalate {separator : String} {texts : List String}
    (h : c ∈ (separator.intercalate texts).toList) :
    c ∈ separator.toList ∨ ∃ text ∈ texts, c ∈ text.toList := by
  induction texts with
  | nil => simp at h
  | cons text texts ih =>
    cases texts with
    | nil => exact .inr ⟨text, List.mem_cons_self, by simpa using h⟩
    | cons next texts =>
      rw [String.intercalate_cons_cons, String.toList_append, String.toList_append,
        List.mem_append, List.mem_append] at h
      rcases h with (h | h) | h
      · exact .inr ⟨text, List.mem_cons_self, h⟩
      · exact .inl h
      · exact (ih h).imp_right fun ⟨text, ht, hc⟩ => ⟨text, List.mem_cons_of_mem _ ht, hc⟩

/-- Where no carriage return is, the ends of the lines are those that are read. -/
theorem unifyLineEnds_of_notMem (h : '\r' ∉ text) : unifyLineEnds text = text := by
  induction text with
  | nil => rfl
  | cons c text ih =>
    rw [List.mem_cons, not_or] at h
    rw [unifyLineEnds.eq_3]
    · rw [if_neg (Ne.symm h.1), ih h.2]
    · rintro rest rfl
      exact absurd rfl h.1

end TapeMachine.Text
