import TapeMachine.Proofs.Source.Targets

namespace TapeMachine.Source

open Text

variable {symbol text value rest : List Char} {target quote c : Char}

theorem eq_of_prefix_cons (h : text <+: c :: text) : ∀ d ∈ text, d = c := by
  induction text generalizing c with
  | nil => simp
  | cons e text ih =>
    obtain ⟨rfl, ht⟩ := List.cons_prefix_cons.mp h
    intro d hd
    rcases List.mem_cons.mp hd with rfl | hd
    · rfl
    · exact ih ht d hd

theorem not_prefix_quote_cons (h : BothQuotes symbol) : ¬symbol <+: '"' :: symbol :=
  fun hs => absurd (eq_of_prefix_cons hs _ h.1) (by decide)

/-- The comma after a quoted symbol is no blank, so nothing but the whole symbol trims to it. -/
theorem eq_of_trimRight_eq_quoted (h : trimRight text = symbol ++ ['"'])
    (hp : text <+: symbol ++ ['"'] ++ ',' :: rest) : text = symbol ++ ['"'] := by
  obtain ⟨after, ha⟩ : symbol ++ ['"'] <+: text := h ▸ List.rdropWhile_prefix _ _
  have hafter : after <+: ',' :: rest := by
    rw [← ha] at hp
    exact (List.prefix_append_right_inj (symbol ++ ['"'])).mp hp
  cases after with
  | nil => rw [← ha, List.append_nil]
  | cons d after =>
    have hd : d = ',' := (List.cons_prefix_cons.mp hafter).1
    rw [← ha, hd, trimRight_append_cons _ _ (by decide)] at h
    simp at h

/-- A symbol with both quotes comes out of its quotes only where they are all there. -/
theorem eq_writeSymbol_of_unquote (h : BothQuotes symbol)
    (hp : value <+: writeSymbol symbol ++ ',' :: rest) (hne : value ≠ [])
    (hu : unquote value = symbol) : value = writeSymbol symbol := by
  rw [writeSymbol_of_bothQuotes h] at hp ⊢
  obtain ⟨c, tail, rfl⟩ := List.exists_cons_of_ne_nil hne
  obtain ⟨rfl, htail⟩ := List.cons_prefix_cons.mp hp
  have ht : trim ('"' :: tail) = '"' :: trimRight tail := trim_cons tail (by decide)
  unfold unquote at hu
  rw [ht] at hu
  simp only at hu
  split at hu
  next hq =>
    have hlast : trimRight tail = symbol ++ ['"'] := by
      rw [← hu]
      exact (List.dropLast_append_getLast? '"' hq.2).symm
    rw [eq_of_trimRight_eq_quoted hlast htail]
  next =>
    -- Were the quotes kept, the symbol would begin with them and so be nothing but one quote.
    have hpre : '"' :: trimRight tail <+: '"' :: tail :=
      List.cons_prefix_cons.mpr ⟨rfl, List.rdropWhile_prefix _ _⟩
    have hleft := hpre.trans hp
    rw [hu] at hleft
    have hright : '"' :: symbol <+: '"' :: (symbol ++ ['"']) ++ ',' :: rest :=
      ⟨'"' :: ',' :: rest, by simp⟩
    have hs : symbol <+: '"' :: symbol := List.prefix_of_prefix_length_le hleft hright (by simp)
    exact absurd hs (not_prefix_quote_cons h)

/-- Where a quote is open nothing ends the text. -/
theorem eq_nil_of_upTo_open (ho : openAfter none text = some quote)
    (hf : find? target none text = none) (h : upTo target none (text ++ rest) = text) :
    rest = [] := by
  cases rest with
  | nil => rfl
  | cons c rest =>
    have hc : find? target (some quote) [c] = none := by simp [find?]
    rw [upTo_append hf, ho, ← List.singleton_append, upTo_append hc] at h
    simp at h

theorem upTo_cons_quote (h : isQuote quote = true) (text : List Char) :
    upTo target none (quote :: text) = quote :: upTo target (some quote) text := by
  have hf : find? target none [quote] = none := by simp [find?, h]
  have ha := upTo_append hf text
  simpa [afterChar, h] using ha

theorem optionLine_some (symbol : List Char) (move : Move) (target : List Char) :
    optionLine (some symbol) move target =
      writeLead ++ (writeSymbol symbol ++
        ',' :: ' ' :: move.letter :: ':' :: ' ' :: (target ++ ['}'])) := by
  simp [optionLine, optionText, writePart]

theorem remainder_writeLead (h : stripComment none true value = '"' :: text) :
    remainder (writeLead ++ value) = writeLead ++ trimRight ('"' :: text) := by
  have ho : openAfter none writeLead = none := rfl
  have he : endsBlank false writeLead = true := rfl
  rw [remainder, stripComment_append (stripComment_of_not_mem (by decide)), ho, he, h,
    trimRight_append_cons _ _ (by decide)]
  exact congrArg (writeLead ++ ·) (trimRight_append_cons [] text (by decide)).symm

/-- A write clause that begins with a quote counts, and its value ends at the first comma. -/
theorem read_write_of_optionBody (h : optionBody text = writeLead ++ '"' :: value) :
    (Options.read text).write = some (unquote (upTo ',' none ('"' :: value))) := by
  have hs : upTo ',' none (writeLead ++ '"' :: value) =
      writeLead ++ upTo ',' none ('"' :: value) := by
    have hf : find? ',' none writeLead = none := by decide
    have ho : openAfter none writeLead = none := rfl
    rw [upTo_append hf, ho]
  have hn : trim (upTo ',' none ('"' :: value)) ≠ [] := by
    rw [upTo_cons_quote (by decide), trim_cons _ (by decide)]
    simp
  obtain ⟨parts, hp⟩ := split_eq_upTo_cons ',' (writeLead ++ '"' :: value)
  have hv := read?_write (upTo ',' none ('"' :: value))
  rw [if_neg hn] at hv
  rw [Options.read, h, hp, hs]
  simp only [List.filterMap_cons, hv]
  rfl

/-- The value of the write clause, and what each scanner has left of it. -/
theorem write_value (symbol rest : List Char) (h : BothQuotes symbol) :
    ∃ kept body, kept = stripComment none true (writeSymbol symbol ++ ',' :: rest) ∧
      body = upTo '}' none (trimRight kept) ∧ upTo ',' none body ≠ [] ∧
      (Options.read (' ' :: '{' ::
        remainder (writeLead ++ (writeSymbol symbol ++ ',' :: rest)))).write =
          some (unquote (upTo ',' none body)) := by
  obtain ⟨tail, ht⟩ : ∃ tail, stripComment none true (writeSymbol symbol ++ ',' :: rest) =
      '"' :: tail := by
    rw [writeSymbol_of_bothQuotes h]
    exact ⟨_, by rw [List.cons_append, stripComment, if_neg (by simp)]⟩
  have hq : trimRight ('"' :: tail) = '"' :: trimRight tail :=
    trimRight_append_cons [] tail (by decide)
  have hu : upTo '}' none (trimRight ('"' :: tail)) =
      '"' :: upTo '}' (some '"') (trimRight tail) := by
    rw [hq, upTo_cons_quote (by decide)]
  have hb : optionBody (' ' :: '{' ::
      remainder (writeLead ++ (writeSymbol symbol ++ ',' :: rest))) =
        writeLead ++ '"' :: upTo '}' (some '"') (trimRight tail) := by
    have hf : find? '}' none writeLead = none := by decide
    have ho : openAfter none writeLead = none := rfl
    rw [optionBody_remainder, remainder_writeLead ht, upTo_append hf, ho, hu]
  refine ⟨_, _, rfl, rfl, ?_, ?_⟩
  · rw [ht, hu, upTo_cons_quote (by decide)]
    simp
  · rw [read_write_of_optionBody hb, ht, hu]

/-- What two scanners in a row leave whole has its quotes closed. -/
theorem closed_of_scanned {kept body : List Char} (hu : withoutComment text = text)
    (hc : find? ',' none text = none) (hb : find? '}' none text = none)
    (hkept : kept = stripComment none true (text ++ ',' :: rest))
    (hbody : body = upTo '}' none (trimRight kept)) (htext : upTo ',' none body = text) :
    openAfter none text = none := by
  cases ho : openAfter none text with
  | none => rfl
  | some quote =>
    exfalso
    obtain ⟨more, hm⟩ : text <+: body := htext ▸ upTo_prefix
    have hmore : more = [] := eq_nil_of_upTo_open ho hc (hm ▸ htext)
    rw [hmore, List.append_nil] at hm
    obtain ⟨beyond, hy⟩ : body <+: trimRight kept := hbody ▸ upTo_prefix
    rw [← hm] at hy
    have hbeyond : beyond = [] := eq_nil_of_upTo_open ho hb (by rw [hy, ← hbody, hm])
    rw [hbeyond, List.append_nil] at hy
    -- No comment begins at the comma, so it is still there after the text.
    have hopen : kept = text ++ ',' ::
        stripComment (afterChar (some quote) ',') (isBlank ',') rest := by
      rw [hkept, stripComment_append hu, ho, stripComment, if_neg (by simp)]
    rw [hopen, trimRight_append_cons _ _ (by decide)] at hy
    simp at hy

/-- A rule writes a symbol with both quotes only where the symbol is scanned as one piece. -/
theorem sealed_of_write (h : BothQuotes symbol)
    (hw : (Options.read (' ' :: '{' ::
      remainder (writeLead ++ (writeSymbol symbol ++ ',' :: rest)))).write = some symbol) :
    Sealed (writeSymbol symbol) := by
  obtain ⟨kept, body, hk, hb, hne, hv⟩ := write_value symbol rest h
  have hkept : kept <+: writeSymbol symbol ++ ',' :: rest := hk ▸ stripComment_prefix
  have hcut : trimRight kept <+: kept := List.rdropWhile_prefix _ _
  have hbody : body <+: trimRight kept := hb ▸ upTo_prefix
  have hvalue : upTo ',' none body <+: body := upTo_prefix
  have hq : upTo ',' none body = writeSymbol symbol :=
    eq_writeSymbol_of_unquote h (((hvalue.trans hbody).trans hcut).trans hkept) hne
      (Option.some.inj (hv.symm.trans hw))
  have hwhole : writeSymbol symbol <+: kept := hq ▸ (hvalue.trans hbody).trans hcut
  have huncommented : withoutComment (writeSymbol symbol) = writeSymbol symbol :=
    stripComment_of_prefix hwhole (hk ▸ stripComment_stripComment)
  have hcomma : find? ',' none (writeSymbol symbol) = none := hq ▸ find?_upTo
  have hbrace : find? '}' none (writeSymbol symbol) = none :=
    find?_of_prefix (hq ▸ hvalue) (hb ▸ find?_upTo)
  exact ⟨huncommented, hcomma, hbrace, closed_of_scanned huncommented hcomma hbrace hk hb hq⟩

end TapeMachine.Source
