import TapeMachine.Proofs.Source.Options
import TapeMachine.Source.Program

namespace TapeMachine.Source

open Text

variable {text name lead rest : List Char} {c : Char}

/-- What stands before the colon of a directive. -/
def leads : List (List Char) :=
  ["input".toList, "blank".toList, "start state".toList]

theorem after?_eq_none {lead : String} (h : ¬lead.toList <+: text) : after? lead text = none := by
  rw [after?, if_neg]
  simpa using h

/-- Without the word of a directive in front a line is the mark of the table or a line of its own
kind. -/
theorem read_of_no_lead (h : ∀ lead ∈ leads, ¬lead ++ [':'] <+: text) :
    Line.read text = if text = "table:".toList then .table else Line.readOther text := by
  have hi : after? "input:" text = none := after?_eq_none (h "input".toList (by simp [leads]))
  have hb : after? "blank:" text = none := after?_eq_none (h "blank".toList (by simp [leads]))
  have hs : after? "start state:" text = none :=
    after?_eq_none (h "start state".toList (by simp [leads]))
  simp only [Line.read, hi, hb, hs]

/-- A text that begins as no directive does is none. -/
theorem no_lead_of_head (h : ∀ lead ∈ leads, lead.head? ≠ some c) (rest : List Char) :
    ∀ lead ∈ leads, ¬lead ++ [':'] <+: c :: rest := by
  rintro lead hl ⟨tail, ht⟩
  refine h lead hl ?_
  cases lead with
  | nil => exact absurd hl (by decide)
  | cons d lead => simpa using congrArg List.head? ht

theorem colon_not_mem_lead (h : lead ∈ leads) : ':' ∉ lead := by
  simp only [leads, List.mem_cons, List.not_mem_nil, or_false] at h
  rcases h with rfl | rfl | rfl <;> decide

/-- A text without a colon before one that follows is the word of a directive or lies apart from
all of them. -/
theorem lead_prefix_iff (h : lead ∈ leads) (hn : ':' ∉ name) :
    lead ++ [':'] <+: name ++ ':' :: rest ↔ name = lead := by
  constructor
  · rintro ⟨tail, ht⟩
    have hc := congrArg atColon ht
    rw [List.append_assoc, List.singleton_append, atColon_append (colon_not_mem_lead h),
      atColon_append hn] at hc
    exact (Prod.mk.inj hc).1.symm
  · rintro rfl
    exact ⟨rest, by simp⟩

/-- The characters of a text up to its first quote of either kind. -/
def untilQuote (text : List Char) : List Char :=
  text.takeWhile fun c => !isQuote c

theorem untilQuote_eq_self_iff : untilQuote text = text ↔ ∀ c ∈ text, isQuote c = false := by
  simp [untilQuote, List.takeWhile_eq_self_iff]

theorem untilQuote_append_cons {quote : Char} (h : isQuote quote = true) :
    untilQuote (text ++ quote :: rest) = untilQuote text := by
  induction text with
  | nil => simp [untilQuote, h]
  | cons c text ih =>
    simp only [untilQuote, List.cons_append, List.takeWhile_cons] at ih ⊢
    rw [ih]

theorem quotedValue?_quoted {quote : Char} (h : isQuote quote = true) :
    quotedValue? (' ' :: quote :: (text ++ [quote])) = some (untilQuote text) := by
  have hb := isBlank_quote h
  have ht : trim (' ' :: quote :: (text ++ [quote])) = quote :: (text ++ [quote]) := by
    rw [trim_cons_blank (by decide), trim_cons _ hb, trimRight_append_cons text [] hb]
    rfl
  have hu : (text ++ [quote]).takeWhile (fun c => !isQuote c) = untilQuote text :=
    untilQuote_append_cons h
  simp [quotedValue?, ht, h, hu]

theorem quotedValue?_open_brace (text : List Char) : quotedValue? (' ' :: '{' :: text) = none := by
  simp [quotedValue?, trim_open_brace, isQuote]

theorem startName?_word (hne : text ≠ []) (h : ∀ c ∈ text, isWord c = true) :
    startName? (' ' :: text) = some text := by
  have hl : trimLeft (' ' :: text) = text := by
    rw [show ' ' :: text = [' '] ++ text from rfl, trimLeft_append_of_blank (by simp; decide)]
    exact trimLeft_eq_self fun c hc => isBlank_of_isWord (h c (List.mem_of_head? hc))
  simp only [startName?, hl, List.takeWhile_eq_self_iff.mpr h]

/-- A value is written in quotes of a kind that it does not hold, if there is one. -/
theorem writeValue_cases (h : ¬BothQuotes text) :
    ∃ quote, isQuote quote = true ∧ quote ∉ text ∧
      writeValue text = quote :: (text ++ [quote]) := by
  by_cases hd : '"' ∈ text
  · exact ⟨'\'', rfl, fun hs => h ⟨hs, hd⟩, by simp [writeValue, hd]⟩
  · exact ⟨'"', rfl, hd, by simp [writeValue, hd]⟩

theorem content_eq_self (hs : withoutComment text = text) (ht : trim text = text) :
    Draft.content text = text := by
  rw [Draft.content, hs, ht]

theorem not_bothQuotes_singleton (c : Char) : ¬BothQuotes [c] := by
  rintro ⟨hs, hd⟩
  have he : '\'' = '"' := (List.mem_singleton.mp hs).trans (List.mem_singleton.mp hd).symm
  exact absurd he (by decide)

theorem not_bothQuotes_of_no_quote (h : ∀ c ∈ text, isQuote c = false) : ¬BothQuotes text :=
  fun hb => absurd (h _ hb.1) (by decide)

/-- A line of word, colon and quoted value has no comment and no blank to lose. -/
theorem content_quoted {first : Char} (hl : '#' ∉ lead) (hq : ∀ c ∈ lead, isQuote c = false)
    (hf : lead.head? = some first) (hb : isBlank first = false) (h : ¬BothQuotes text) :
    Draft.content (lead ++ ' ' :: writeValue text) = lead ++ ' ' :: writeValue text := by
  obtain ⟨quote, hquote, hn, hw⟩ := writeValue_cases h
  rw [hw]
  apply content_eq_self
  · rw [withoutComment, stripComment_append (stripComment_of_not_mem hl), openAfter_of_no_quote hq,
      stripComment, if_neg (by simp), afterChar_of_not_quote (by decide),
      stripComment_quoted hquote hn]
  · rw [trim_eq_self_iff]
    refine ⟨fun c hc => ?_, fun c hc => ?_⟩
    · rw [List.head?_append, hf] at hc
      rwa [← Option.some.inj hc]
    · have he : c = quote := by
        rw [← List.cons_append, ← List.cons_append, ← List.append_assoc, List.getLast?_concat] at hc
        exact (Option.some.inj hc).symm
      rw [he]
      exact isBlank_quote hquote

/-- What is read back of a tape ends at its first quote. -/
theorem read_input_written (h : ¬BothQuotes text) :
    Line.read (Draft.content ("input:".toList ++ ' ' :: writeValue text)) =
      .input (untilQuote text) := by
  obtain ⟨quote, hquote, _, hw⟩ := writeValue_cases h
  have hf : "input:".toList.head? = some 'i' := rfl
  rw [content_quoted (by decide) (forall_eq_false_of_all (by decide)) hf (by decide) h, hw]
  change Line.readInput (' ' :: quote :: (text ++ [quote])) = _
  rw [Line.readInput, quotedValue?_quoted hquote]

theorem content_blank_written (c : Char) :
    Draft.content ("blank:".toList ++ ' ' :: writeValue [c]) =
      "blank:".toList ++ ' ' :: writeValue [c] := by
  have hf : "blank:".toList.head? = some 'b' := rfl
  exact content_quoted (by decide) (forall_eq_false_of_all (by decide)) hf (by decide)
    (not_bothQuotes_singleton c)

/-- A blank that is a quote is read as no symbol at all. -/
theorem read_blank_written (c : Char) :
    Line.read (Draft.content ("blank:".toList ++ ' ' :: writeValue [c])) =
      if isQuote c then .faulty .blankNotOneCharacter else .blank c := by
  obtain ⟨quote, hquote, _, hw⟩ := writeValue_cases (not_bothQuotes_singleton c)
  rw [content_blank_written, hw]
  change Line.readBlank (' ' :: quote :: ([c] ++ [quote])) = _
  rw [Line.readBlank, quotedValue?_quoted hquote]
  cases hc : isQuote c <;> simp [untilQuote, hc]

theorem read_start_written (hne : name ≠ []) (h : ∀ c ∈ name, isWord c = true) :
    Line.read (Draft.content ("start state:".toList ++ ' ' :: name)) = .start name := by
  have hm : '#' ∉ "start state:".toList ++ ' ' :: name := by
    intro hm
    rcases List.mem_append.mp hm with hl | hl
    · exact absurd hl (by decide)
    · rcases List.mem_cons.mp hl with hl | hl
      · exact absurd hl (by decide)
      · exact absurd (h _ hl) (by decide)
  have hc : Draft.content ("start state:".toList ++ ' ' :: name) =
      "start state:".toList ++ ' ' :: name := by
    apply content_eq_self (stripComment_of_not_mem hm)
    rw [trim_eq_self_iff]
    refine ⟨fun c hc => ?_, fun c hc => ?_⟩
    · have he : c = 's' := (Option.some.inj hc).symm
      rw [he]
      decide
    · rw [← List.singleton_append, ← List.append_assoc,
        List.getLast?_append_of_ne_nil _ hne] at hc
      exact isBlank_of_isWord (h c (List.mem_of_getLast? hc))
  rw [hc]
  change Line.readStart (' ' :: name) = _
  rw [Line.readStart, startName?_word hne h]

theorem read_table_written : Line.read (Draft.content "table:".toList) = .table := rfl

end TapeMachine.Source
