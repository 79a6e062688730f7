import TapeMachine.Proofs.Source.Drafts
import TapeMachine.Proofs.Source.RuleLines

namespace TapeMachine.Source

open Text

variable {symbol text rest target : List Char} {symbols parts : List (List Char)}
variable {write : Option (List Char)} {move : Move} {quote : Char}

/-- Parts as they stand between the brackets of a list. -/
def listed (parts : List (List Char)) : List Char :=
  [',', ' '].intercalate parts

theorem listed_singleton (part : List Char) : listed [part] = part := by
  simp [listed]

theorem listed_cons_cons (part next : List Char) (parts : List (List Char)) :
    listed (part :: next :: parts) = part ++ ',' :: ' ' :: listed (next :: parts) := by
  simp [listed, List.intercalate_cons_cons]

/-- Symbols as they stand between the brackets of a list. -/
def listText (symbols : List (List Char)) : List Char :=
  [',', ' '].intercalate (symbols.map writeSymbol)

theorem listText_singleton (symbol : List Char) : listText [symbol] = writeSymbol symbol :=
  listed_singleton _

theorem listText_cons_cons (symbol next : List Char) (symbols : List (List Char)) :
    listText (symbol :: next :: symbols) =
      writeSymbol symbol ++ ',' :: ' ' :: listText (next :: symbols) :=
  listed_cons_cons _ _ _

/-- Scanned from its start the text opens no comment, closes its quotes and has no closing bracket
outside them. -/
structure Bracketable (text : List Char) : Prop where
  uncommented : ∀ b, stripComment none b text = text
  no_bracket : find? ']' none text = none
  closed : openAfter none text = none

theorem Bracketable.append (hl : Bracketable text) (hr : Bracketable rest) :
    Bracketable (text ++ rest) where
  uncommented := fun b => by
    rw [stripComment_append (hl.uncommented b), hl.closed, hr.uncommented]
  no_bracket := by
    rw [find?_append_eq_none_iff, hl.closed]
    exact ⟨hl.no_bracket, hr.no_bracket⟩
  closed := by rw [openAfter_append, hl.closed, hr.closed]

theorem bracketable_quoted (hq : isQuote quote = true) (hn : quote ∉ symbol) :
    Bracketable (quote :: (symbol ++ [quote])) :=
  ⟨fun _ => stripComment_quoted hq hn, find?_quoted hq hn, openAfter_quoted hq hn⟩

theorem bracketable_writeSymbol (h : ¬BothQuotes symbol) : Bracketable (writeSymbol symbol) := by
  obtain ⟨he, hs, _⟩ | ⟨quote, he, hq, hm, _⟩ := writeSymbol_cases symbol
  · rw [he]
    exact ⟨fun _ => stripComment_of_not_mem (not_mem_of_not_special hs (by decide)),
      find?_of_not_mem (not_mem_of_not_special hs (by decide)),
      openAfter_of_no_quote fun c hc => isQuote_of_not_special (hs c hc)⟩
  · rw [he]
    exact bracketable_quoted hq fun hd => h (hm hd).2

theorem bracketable_listed (h : ∀ part ∈ parts, Bracketable part) :
    Bracketable (listed parts) := by
  induction parts with
  | nil => exact ⟨fun _ => rfl, rfl, rfl⟩
  | cons part parts ih =>
    have hp := h part (by simp)
    cases parts with
    | nil => rwa [listed_singleton]
    | cons next parts =>
      have hsep : Bracketable [',', ' '] :=
        ⟨fun _ => stripComment_of_not_mem (by decide), by decide, rfl⟩
      rw [listed_cons_cons]
      exact hp.append (hsep.append (ih fun other ho => h other (List.mem_cons_of_mem part ho)))

theorem bracketable_listText (h : ∀ symbol ∈ symbols, ¬BothQuotes symbol) :
    Bracketable (listText symbols) :=
  bracketable_listed <|
    List.forall_mem_map.mpr fun symbol hs => bracketable_writeSymbol (h symbol hs)

theorem unquote_append_of_blank (h : ∀ c ∈ text, isBlank c = true) (rest : List Char) :
    unquote (text ++ rest) = unquote rest := by
  rw [← unquote_trim, trim_blank_append h, unquote_trim]

/-- The symbols of a list are its parts between commas. Blanks before a part do not count. -/
theorem split_listed (hne : parts ≠ []) (hf : ∀ part ∈ parts, find? ',' none part = none)
    (hc : ∀ part ∈ parts, openAfter none part = none) (hb : ∀ c ∈ text, isBlank c = true) :
    (split ',' (text ++ listed parts)).map unquote = parts.map unquote := by
  induction parts generalizing text with
  | nil => exact absurd rfl hne
  | cons part parts ih =>
    have ho : openAfter none text = none :=
      openAfter_of_no_quote fun c hc => isQuote_of_isBlank (hb c hc)
    have hfirst : find? ',' none (text ++ part) = none := by
      rw [find?_append_eq_none_iff, ho]
      refine ⟨find?_of_not_mem fun hm => ?_, hf part (by simp)⟩
      exact absurd (hb ',' hm) (by decide)
    cases parts with
    | nil =>
      rw [listed_singleton, split_of_none hfirst, List.map_singleton, unquote_append_of_blank hb,
        List.map_singleton]
    | cons next parts =>
      have ht := @ih [' '] (by simp) (fun other hm => hf other (List.mem_cons_of_mem part hm))
        (fun other hm => hc other (List.mem_cons_of_mem part hm)) (by simp; decide)
      have hclosed : openAfter none (text ++ part) = none := by
        rw [openAfter_append, ho, hc part (by simp)]
      rw [listed_cons_cons, ← List.append_assoc, split_append_cons (by decide) hfirst hclosed,
        List.map_cons, unquote_append_of_blank hb]
      exact congrArg (unquote part :: ·) ht

theorem split_listText (hne : symbols ≠ []) (h : ∀ symbol ∈ symbols, ¬BothQuotes symbol)
    (hk : ∀ symbol ∈ symbols, KeepsBlanks symbol) :
    (split ',' (listText symbols)).map unquote = symbols := by
  have hu : ∀ symbol ∈ symbols, unquote (writeSymbol symbol) = id symbol := fun symbol hs =>
    unquote_writeSymbol (hk symbol hs)
  have hs := @split_listed [] (symbols.map writeSymbol) (by simpa using hne)
    (List.forall_mem_map.mpr fun symbol hs => (sealed_writeSymbol (h symbol hs)).no_comma)
    (List.forall_mem_map.mpr fun symbol hs => (sealed_writeSymbol (h symbol hs)).closed)
    (List.forall_mem_nil _)
  rw [List.map_map] at hs
  exact hs.trans ((List.map_congr_left hu).trans (List.map_id symbols))

/-- The brackets around a list, and what stands between them, are read as they are. -/
theorem content_brackets (h : Bracketable text) (options : List Char) :
    Draft.content ('[' :: (text ++ ']' :: ':' :: options)) =
      '[' :: (text ++ ']' :: ':' :: remainder options) := by
  have hb : Bracketable ['['] := ⟨fun _ => stripComment_of_not_mem (by decide), by decide, rfl⟩
  have hopen : Bracketable ('[' :: text) := hb.append h
  have hw : withoutComment ('[' :: text ++ [']']) = '[' :: text ++ [']'] := by
    rw [withoutComment, stripComment_append (hopen.uncommented true),
      stripComment_of_not_mem (by decide)]
  have ho : openAfter none ('[' :: text ++ [']']) = none := by
    rw [openAfter_append, hopen.closed]
    rfl
  have hl : trimLeft ('[' :: text ++ [']']) = '[' :: text ++ [']'] :=
    trimLeft_eq_self fun c hc => by cases hc; decide
  have hc := content_append_colon hw ho options
  rw [hl] at hc
  simpa using hc

theorem splitSymbols_brackets (h : Bracketable text) (rest : List Char) :
    splitSymbols ('[' :: (text ++ ']' :: rest)) =
      afterSymbols ((split ',' text).map unquote) rest := by
  have hf : find? ']' none (text ++ ']' :: rest) = some text.length := by
    rw [find?_append, h.no_bracket, h.closed, find?_cons_self (by decide)]
    simp
  simp only [splitSymbols, ↓reduceIte, hf, List.take_left, List.drop_length_add_append]
  simp

/-- The line of a rule that reads a collection, `text` being what follows its opening brace. -/
def listLine (symbols : List (List Char)) (text : List Char) : List Char :=
  ' ' :: ' ' :: ' ' :: ' ' :: '[' :: (listText symbols ++ ']' :: ':' :: ' ' :: '{' :: text)

theorem content_listLine (h : ∀ symbol ∈ symbols, ¬BothQuotes symbol) (text : List Char) :
    Draft.content (listLine symbols text) =
      '[' :: (listText symbols ++ ']' :: ':' :: ' ' :: '{' :: remainder text) := by
  have hb : ∀ c ∈ [' '], isBlank c = true := by simp; decide
  have he : listLine symbols text =
      [' ', ' ', ' ', ' '] ++ '[' :: (listText symbols ++ ']' :: ':' :: ([' '] ++ '{' :: text)) :=
    rfl
  rw [he, content_blank_append (List.all_eq_true.mp (by decide)),
    content_brackets (bracketable_listText h), remainder_append_brace hb]
  rfl

theorem splitSymbols_list (hne : symbols ≠ []) (h : ∀ symbol ∈ symbols, ¬BothQuotes symbol)
    (hk : ∀ symbol ∈ symbols, KeepsBlanks symbol) (text : List Char) :
    splitSymbols ('[' :: (listText symbols ++ ']' :: ':' :: text)) = .ok (symbols, text) := by
  rw [splitSymbols_brackets (bracketable_listText h), split_listText hne h hk, afterSymbols_colon]

/-- A bracket leads no directive, so the line of a collection is read as a rule line. -/
theorem reading_listLine (hne : symbols ≠ []) (h : ∀ symbol ∈ symbols, ¬BothQuotes symbol)
    (hk : ∀ symbol ∈ symbols, KeepsBlanks symbol)
    (hw : ∀ text, write = some text → Sealed (writeSymbol text) ∧ KeepsBlanks text)
    (ht : TargetName target) (hs : Sealed target) :
    reading (listLine symbols (optionLine write move target)) =
      .rule (.ok ⟨symbols, write, move, target⟩) := by
  have hlead : ∀ lead ∈ leads, ¬lead ++ [':'] <+: Draft.content
      (listLine symbols (optionLine write move target)) := by
    rw [content_listLine h]
    exact no_lead_of_head (by decide) _
  have hb : '{' ∈ Draft.content (listLine symbols (optionLine write move target)) := by
    rw [content_listLine h]
    simp
  rw [reading, read_of_brace hlead hb, content_listLine h, RuleLine.read,
    splitSymbols_list hne h hk]
  simp only [bind, Except.bind, read_optionLine_of_sealed hw ht hs]

end TapeMachine.Source
