import TapeMachine.Proofs.Source.Quotes
import TapeMachine.Proofs.Text.Blank
import TapeMachine.Source.Writer

namespace TapeMachine.Source

open Text

variable {symbol text : List Char} {quote c d : Char}

def BothQuotes (symbol : List Char) : Prop :=
  '\'' ∈ symbol ∧ '"' ∈ symbol

instance : DecidablePred BothQuotes := fun symbol => by
  unfold BothQuotes
  infer_instance

/-- Written, the symbol has the blanks at its ends inside quotes, or has none there. -/
def KeepsBlanks (symbol : List Char) : Prop :=
  trim symbol = symbol ∨ isBlankText symbol = true ∨ symbol.any isSpecial = true

instance : DecidablePred KeepsBlanks := fun symbol => by
  unfold KeepsBlanks
  infer_instance

/-- Scanned from its start the text opens no comment and closes its quotes, and outside them it
has no comma and no closing brace. -/
structure Sealed (text : List Char) : Prop where
  uncommented : withoutComment text = text
  no_comma : find? ',' none text = none
  no_brace : find? '}' none text = none
  closed : openAfter none text = none

theorem sealed_iff :
    Sealed text ↔ withoutComment text = text ∧ find? ',' none text = none ∧
      find? '}' none text = none ∧ openAfter none text = none :=
  ⟨fun h => ⟨h.uncommented, h.no_comma, h.no_brace, h.closed⟩,
    fun ⟨hu, hc, hb, ho⟩ => ⟨hu, hc, hb, ho⟩⟩

instance : DecidablePred Sealed := fun _ => decidable_of_iff' _ sealed_iff

theorem ne_of_special (hc : isSpecial c = false) (hd : isSpecial d = true) : c ≠ d := by
  rintro rfl
  simp [hc] at hd

theorem isQuote_iff : isQuote c = true ↔ c = '\'' ∨ c = '"' := by
  simp [isQuote]

theorem isQuote_of_not_special (h : isSpecial c = false) : isQuote c = false := by
  cases hq : isQuote c with
  | false => rfl
  | true =>
    rcases isQuote_iff.mp hq with rfl | rfl
    · exact absurd h (by decide)
    · exact absurd h (by decide)

theorem isBlank_quote (h : isQuote quote = true) : isBlank quote = false := by
  rcases isQuote_iff.mp h with rfl | rfl <;> decide

theorem isQuote_of_isBlank (h : isBlank c = true) : isQuote c = false := by
  cases hq : isQuote c with
  | false => rfl
  | true => simp [isBlank_quote hq] at h

/-- A symbol is written as it is, or in quotes of a kind that it does not hold. -/
theorem writeSymbol_cases (symbol : List Char) :
    (writeSymbol symbol = symbol ∧ (∀ c ∈ symbol, isSpecial c = false) ∧
        ∃ c ∈ symbol, isBlank c = false) ∨
      ∃ quote, writeSymbol symbol = quote :: (symbol ++ [quote]) ∧ isQuote quote = true ∧
        (quote ∈ symbol → quote = '"' ∧ BothQuotes symbol) ∧
        ((∀ c ∈ symbol, isBlank c = true) ∨ ∃ c ∈ symbol, isSpecial c = true) := by
  unfold writeSymbol
  split
  next h =>
    refine .inl ⟨rfl, by simpa using h.2.1, ?_⟩
    simpa [isBlankText] using h.2.2
  next h =>
    refine .inr ⟨_, rfl, ?_, ?_, ?_⟩
    · split <;> rfl
    · split
      next hs => exact fun hd => ⟨rfl, hs, hd⟩
      next hs => exact fun hd => absurd hd hs
    · by_cases hs : ∃ c ∈ symbol, isSpecial c = true
      · exact .inr hs
      · refine .inl fun c hc => ?_
        by_contra hb
        refine h ⟨List.ne_nil_of_mem hc, by simpa using hs, ?_⟩
        simp only [isBlankText, List.all_eq_true, not_forall]
        exact ⟨c, hc, hb⟩

theorem writeSymbol_of_bothQuotes (h : BothQuotes symbol) :
    writeSymbol symbol = '"' :: (symbol ++ ['"']) := by
  obtain ⟨_, hs, _⟩ | ⟨quote, he, hq, hm, _⟩ := writeSymbol_cases symbol
  · exact absurd (hs '"' h.2) (by decide)
  · have hd : quote = '"' := by
      rcases isQuote_iff.mp hq with rfl | rfl
      · exact (hm h.1).1
      · rfl
    rw [he, hd]

theorem unquote_quoted (h : isQuote quote = true) (symbol : List Char) :
    unquote (quote :: (symbol ++ [quote])) = symbol := by
  have hb := isBlank_quote h
  have ht : trim (quote :: (symbol ++ [quote])) = quote :: (symbol ++ [quote]) := by
    rw [trim_cons _ hb, trimRight_append_cons symbol [] hb]
    rfl
  simp [unquote, ht, h]

theorem unquote_of_no_quote (h : ∀ c ∈ symbol, isQuote c = false) :
    unquote symbol = trim symbol := by
  unfold unquote
  split
  next he => exact he.symm
  next c rest he =>
    have hc : isQuote c = false := h c (mem_of_mem_trim (by rw [he]; simp))
    simp [hc, he]

theorem unquote_trim (text : List Char) : unquote (trim text) = unquote text := by
  simp [unquote, trim_trim]

/-- A symbol that is written without quotes has no blanks at its ends. -/
theorem trim_of_keepsBlanks (h : KeepsBlanks symbol) (hs : ∀ c ∈ symbol, isSpecial c = false)
    (hb : ∃ c ∈ symbol, isBlank c = false) : trim symbol = symbol := by
  obtain ht | ht | ht := h
  · exact ht
  · obtain ⟨c, hc, hblank⟩ := hb
    have hall := List.all_eq_true.mp ht c hc
    simp [hblank] at hall
  · obtain ⟨c, hc, hspecial⟩ := List.any_eq_true.mp ht
    simp [hs c hc] at hspecial

theorem unquote_writeSymbol (h : KeepsBlanks symbol) : unquote (writeSymbol symbol) = symbol := by
  obtain ⟨he, hs, hb⟩ | ⟨quote, he, hq, _⟩ := writeSymbol_cases symbol
  · rw [he, unquote_of_no_quote fun c hc => isQuote_of_not_special (hs c hc)]
    exact trim_of_keepsBlanks h hs hb
  · rw [he, unquote_quoted hq]

/-- Only quotes keep the blanks at the ends of a symbol. -/
theorem keepsBlanks_of_unquote (h : unquote (writeSymbol symbol) = symbol) :
    KeepsBlanks symbol := by
  obtain ⟨he, hs, _⟩ | ⟨_, _, _, _, hb | hs⟩ := writeSymbol_cases symbol
  · rw [he, unquote_of_no_quote fun c hc => isQuote_of_not_special (hs c hc)] at h
    exact .inl h
  · exact .inr (.inl (List.all_eq_true.mpr hb))
  · exact .inr (.inr (List.any_eq_true.mpr hs))

theorem openAfter_quoted (h : isQuote quote = true) (hn : quote ∉ symbol) :
    openAfter none (quote :: (symbol ++ [quote])) = none := by
  simp [afterChar, h, openAfter_of_not_mem hn]

theorem find?_quoted {target : Char} (h : isQuote quote = true) (hn : quote ∉ symbol) :
    find? target none (quote :: (symbol ++ [quote])) = none := by
  have hq : find? target none [quote] = none := by simp [find?, h]
  have hl : find? target (some quote) [quote] = none := by simp [find?]
  rw [show quote :: (symbol ++ [quote]) = [quote] ++ (symbol ++ [quote]) from rfl,
    find?_append_eq_none_iff, find?_append_eq_none_iff]
  simp only [openAfter_cons, openAfter_nil, afterChar, h, ↓reduceIte, openAfter_of_not_mem hn]
  exact ⟨hq, find?_of_open hn, hl⟩

theorem stripComment_quoted {b : Bool} (h : isQuote quote = true) (hn : quote ∉ symbol) :
    stripComment none b (quote :: (symbol ++ [quote])) = quote :: (symbol ++ [quote]) := by
  have hq : quote ≠ '#' := by
    rintro rfl
    exact absurd h (by decide)
  have hl : stripComment (some quote) (endsBlank (isBlank quote) symbol) [quote] = [quote] := by
    simp [stripComment]
  rw [stripComment, if_neg (by simp [hq]), afterChar, if_pos h,
    stripComment_append (stripComment_of_open hn), openAfter_of_not_mem hn, hl]

theorem not_mem_of_not_special (h : ∀ c ∈ symbol, isSpecial c = false) (hd : isSpecial d = true) :
    d ∉ symbol := fun hm => ne_of_special (h d hm) hd rfl

theorem sealed_writeSymbol (h : ¬BothQuotes symbol) : Sealed (writeSymbol symbol) := by
  obtain ⟨he, hs, _⟩ | ⟨quote, he, hq, hm, _⟩ := writeSymbol_cases symbol
  · rw [he]
    exact ⟨stripComment_of_not_mem (not_mem_of_not_special hs (by decide)),
      find?_of_not_mem (not_mem_of_not_special hs (by decide)),
      find?_of_not_mem (not_mem_of_not_special hs (by decide)),
      openAfter_of_no_quote fun c hc => isQuote_of_not_special (hs c hc)⟩
  · have hn : quote ∉ symbol := fun hc => h (hm hc).2
    rw [he]
    exact ⟨stripComment_quoted hq hn, find?_quoted hq hn, find?_quoted hq hn,
      openAfter_quoted hq hn⟩

end TapeMachine.Source
