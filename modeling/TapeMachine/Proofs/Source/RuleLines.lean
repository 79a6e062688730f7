import TapeMachine.Proofs.Source.Directives
import TapeMachine.Proofs.Source.Spacing
import TapeMachine.Proofs.Source.Targets

namespace TapeMachine.Source

open Text

variable {symbol text target : List Char}

/-- The line of a rule, `text` being what follows its opening brace. -/
def ruleLine (symbol text : List Char) : List Char :=
  ' ' :: ' ' :: ' ' :: ' ' :: (writeSymbol symbol ++ ':' :: ' ' :: '{' :: text)

/-- What stands before a colon is left as it is if it opens no comment and closes its quotes. -/
theorem content_append_colon {lead : List Char} (h : withoutComment lead = lead)
    (ho : openAfter none lead = none) (options : List Char) :
    Draft.content (lead ++ ':' :: options) = trimLeft lead ++ ':' :: remainder options := by
  rw [Draft.content, withoutComment, stripComment_append h, ho,
    stripComment_cons (by decide) (by decide), trim_append_cons _ _ (by decide)]
  rfl

/-- No comment takes the opening brace away, nor the blanks before it. -/
theorem remainder_append_brace {gap : List Char} (h : ∀ c ∈ gap, isBlank c = true)
    (text : List Char) : remainder (gap ++ '{' :: text) = gap ++ '{' :: remainder text := by
  have ho : openAfter none gap = none :=
    openAfter_of_no_quote fun c hc => isQuote_of_isBlank (h c hc)
  rw [remainder, stripComment_append (stripComment_of_blank none false h), ho,
    stripComment_cons (by decide) (by decide), trimRight_append_cons _ _ (by decide)]
  rfl

theorem content_ruleLine (h : ¬BothQuotes symbol) (text : List Char) :
    Draft.content (ruleLine symbol text) =
      trimLeft (writeSymbol symbol) ++ ':' :: ' ' :: '{' :: remainder text := by
  have hs := sealed_writeSymbol h
  have hb : ∀ c ∈ [' '], isBlank c = true := by simp; decide
  have he : ruleLine symbol text =
      [' ', ' ', ' ', ' '] ++ (writeSymbol symbol ++ ':' :: ([' '] ++ '{' :: text)) := rfl
  rw [he, content_blank_append (List.all_eq_true.mp (by decide)),
    content_append_colon hs.uncommented hs.closed, remainder_append_brace hb]
  rfl

theorem trimLeft_quoted {quote : Char} (h : isQuote quote = true) (rest : List Char) :
    trimLeft (quote :: rest) = quote :: rest := by
  simp [trimLeft, isBlank_quote h]

theorem trim_trimLeft (text : List Char) : trim (trimLeft text) = trim text := by
  rw [trim, trim, trimLeft_eq_self fun _ => isBlank_head_trimLeft]

theorem afterSymbols_colon (symbols : List (List Char)) (options : List Char) :
    afterSymbols symbols (':' :: options) = .ok (symbols, options) := by
  have hb : isBlank ':' = false := by decide
  simp [afterSymbols, trimLeft, hb]

theorem splitSymbols_quoted {quote : Char} (h : isQuote quote = true) (hn : quote ∉ symbol)
    (rest : List Char) :
    splitSymbols (quote :: (symbol ++ quote :: rest)) = afterSymbols [symbol] rest := by
  have hw : ∀ c ∈ symbol, decide (c ≠ quote) = true := by
    intro c hc
    simpa using ne_of_mem_of_not_mem hc hn
  have hb : quote ≠ '[' := by
    rintro rfl
    exact absurd h (by decide)
  simp only [splitSymbols, if_neg hb, h, ↓reduceIte]
  rw [if_pos (by simp), List.takeWhile_append_of_pos hw, List.dropWhile_append_of_pos hw]
  simp

/-- A symbol is read off its line with the blanks that its quotes keep. -/
theorem splitSymbols_written (h : ¬BothQuotes symbol) (text : List Char) :
    splitSymbols (trimLeft (writeSymbol symbol) ++ ':' :: text) =
      .ok ([unquote (writeSymbol symbol)], text) := by
  obtain ⟨he, hs, d, hd, hb⟩ | ⟨quote, he, hq, hm, _⟩ := writeSymbol_cases symbol
  · have hl : ∀ c ∈ trimLeft symbol, isSpecial c = false := fun c hc =>
      hs c ((List.dropWhile_sublist _).mem hc)
    have hn : ':' ∉ trimLeft symbol := not_mem_of_not_special hl (by decide)
    have ha := atColon_append hn text
    rw [he, unquote_of_no_quote fun c hc => isQuote_of_not_special (hs c hc)]
    cases ht : trimLeft symbol with
    | nil =>
      have := trimLeft_eq_nil_iff.mp ht d hd
      simp [hb] at this
    | cons c rest =>
      have hc : isSpecial c = false := hl c (by rw [ht]; simp)
      rw [ht] at ha
      have hb : c ≠ '[' := ne_of_special hc (by decide)
      simp only [splitSymbols, List.cons_append, if_neg hb, isQuote_of_not_special hc,
        Bool.false_eq_true, ↓reduceIte]
      rw [← List.cons_append, ha, ← ht, trim_trimLeft]
      rfl
  · have hn : quote ∉ symbol := fun hc => h (hm hc).2
    have hr := (splitSymbols_quoted hq hn (':' :: text)).trans (afterSymbols_colon [symbol] text)
    rw [he, unquote_quoted hq, trimLeft_quoted hq]
    simpa using hr

/-- What the reader of a line makes of a rule. -/
def readRule (symbol text : List Char) : Except Reason RuleLine :=
  let options := Options.read (' ' :: '{' :: remainder text)
  match options.step with
  | none => .error .noMove
  | some (move, target) => .ok ⟨[unquote (writeSymbol symbol)], options.write, move, target⟩

theorem ruleLine_read (h : ¬BothQuotes symbol) (text : List Char) :
    RuleLine.read (Draft.content (ruleLine symbol text)) = readRule symbol text := by
  rw [content_ruleLine h, RuleLine.read, splitSymbols_written h]
  rfl

theorem lead_prefix_written {lead rest : List Char} (h : lead ∈ leads)
    (hp : lead ++ [':'] <+: trimLeft (writeSymbol symbol) ++ ':' :: rest) :
    trimLeft (writeSymbol symbol) = lead := by
  obtain ⟨he, hs, _⟩ | ⟨quote, he, hq, _⟩ := writeSymbol_cases symbol
  · have hn : ':' ∉ trimLeft (writeSymbol symbol) := by
      rw [he]
      intro hc
      exact not_mem_of_not_special hs (by decide) ((List.dropWhile_sublist _).mem hc)
    exact (lead_prefix_iff h hn).mp hp
  · rw [he, trimLeft_quoted hq] at hp
    simp only [leads, List.mem_cons, List.not_mem_nil, or_false] at h
    rcases isQuote_iff.mp hq with rfl | rfl <;> rcases h with rfl | rfl | rfl <;>
      simp [List.prefix_iff_eq_append] at hp

theorem read_lead_brace {lead : List Char} (h : lead ∈ leads) (text : List Char) :
    ∃ reason, Line.read (lead ++ ':' :: ' ' :: '{' :: text) = .faulty reason := by
  have hq := quotedValue?_open_brace text
  simp only [leads, List.mem_cons, List.not_mem_nil, or_false] at h
  rcases h with rfl | rfl | rfl
  · refine ⟨.expectedQuoted "input:", ?_⟩
    change Line.readInput (' ' :: '{' :: text) = _
    rw [Line.readInput, hq]
  · refine ⟨.expectedQuoted "blank:", ?_⟩
    change Line.readBlank (' ' :: '{' :: text) = _
    rw [Line.readBlank, hq]
  · exact ⟨.missingStartState, rfl⟩

/-- A line with an opening brace and no directive in front is the line of a rule. -/
theorem read_of_brace (h : ∀ lead ∈ leads, ¬lead ++ [':'] <+: text) (hb : '{' ∈ text) :
    Line.read text = .rule (RuleLine.read text) := by
  have ht : text ≠ "table:".toList := by
    rintro rfl
    exact absurd hb (by decide)
  rw [read_of_no_lead h, if_neg ht, Line.readOther, if_neg (fun hc => hc.2 hb), if_pos (.inl hb)]

/-- The line of a rule is read as one, unless the word of a directive leads it. -/
theorem read_ruleLine (h : ¬BothQuotes symbol) (text : List Char) :
    trimLeft (writeSymbol symbol) ∉ leads ∧
        Line.read (Draft.content (ruleLine symbol text)) = .rule (readRule symbol text) ∨
      trimLeft (writeSymbol symbol) ∈ leads ∧
        ∃ reason, Line.read (Draft.content (ruleLine symbol text)) = .faulty reason := by
  rw [← ruleLine_read h, content_ruleLine h]
  by_cases hl : trimLeft (writeSymbol symbol) ∈ leads
  · exact .inr ⟨hl, read_lead_brace hl _⟩
  · refine .inl ⟨hl, read_of_brace (fun lead hm hp => hl ?_) (by simp)⟩
    rw [lead_prefix_written hm hp]
    exact hm

theorem trimLeft_writeSymbol (h : KeepsBlanks symbol) :
    trimLeft (writeSymbol symbol) = writeSymbol symbol := by
  obtain ⟨he, hs, hb⟩ | ⟨quote, he, hq, _⟩ := writeSymbol_cases symbol
  · rw [he]
    exact trimLeft_eq_self (trim_eq_self_iff.mp (trim_of_keepsBlanks h hs hb)).1
  · rw [he, trimLeft_quoted hq]

theorem writeSymbol_mem_leads_iff : writeSymbol symbol ∈ leads ↔ symbol ∈ leads := by
  have hl : ∀ lead ∈ leads, writeSymbol lead = lead := by decide
  constructor
  · intro h
    obtain ⟨he, _⟩ | ⟨quote, he, hq, _⟩ := writeSymbol_cases symbol
    · rwa [he] at h
    · have hn : ∀ lead ∈ leads, lead.all (fun c => !isQuote c) = true := by decide
      have := forall_eq_false_of_all (hn _ h) quote (by simp [he])
      simp [hq] at this
  · intro h
    rwa [hl symbol h]

end TapeMachine.Source
