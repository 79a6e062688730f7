import TapeMachine.Proofs.Source.RoundTrip

namespace TapeMachine.Source

open Text Table

variable {table : Table} {symbols : List String} {state : String} {tape : List Char} {blank : Char}

/-- Whether a symbol is a quote, of either kind. -/
def isQuoteSymbol (symbol : String) : Bool :=
  symbol == "'" || symbol == "\""

theorem isQuoteSymbol_toString (c : Char) : isQuoteSymbol c.toString = isQuote c := by
  have hs : ∀ d : Char, (c.toString == d.toString) = (c == d) := by
    intro d
    rw [Bool.eq_iff_iff, beq_iff_eq, beq_iff_eq]
    exact ⟨fun h => by simpa using congrArg String.toList h, congrArg Char.toString⟩
  exact congrArg₂ (· || ·) (hs '\'') (hs '"')

/-- The tape that is read back: a quote ends it, and where nothing is left of it there is the tape
of a program that declares none. -/
def tapeHeard (tape : List String) : List String :=
  match tape.takeWhile fun symbol => !isQuoteSymbol symbol with
  | [] => ["1", "0", "1", "1"]
  | symbols => symbols

/-- The blank that is read back. -/
def blankHeard (blank : String) : String :=
  if isQuoteSymbol blank then "_" else blank

/-- What is reported of the line that declares the blank. -/
def blankReport (blank : String) : List Warning :=
  if isQuoteSymbol blank then [⟨2, "blank: " ++ quoteValue blank, .blankNotOneCharacter⟩] else []

/-- Quotes are all that a tape loses. -/
theorem tapeHeard_eq_self_iff (hne : symbols ≠ []) :
    tapeHeard symbols = symbols ↔ ∀ symbol ∈ symbols, isQuoteSymbol symbol = false := by
  obtain ⟨first, rest, rfl⟩ := List.exists_cons_of_ne_nil hne
  cases hq : isQuoteSymbol first with
  | true =>
    have hd : tapeHeard (first :: rest) = ["1", "0", "1", "1"] := by
      simp [tapeHeard, hq]
    refine ⟨fun h => ?_, fun h => absurd (h first (by simp)) (by simp [hq])⟩
    rw [← (List.cons.inj (hd.symm.trans h)).1] at hq
    exact absurd hq (by decide)
  | false =>
    have hk : tapeHeard (first :: rest) =
        (first :: rest).takeWhile fun symbol => !isQuoteSymbol symbol := by
      simp [tapeHeard, hq]
    rw [hk, List.takeWhile_eq_self_iff]
    simp

theorem blankHeard_eq_self_iff {symbol : String} :
    blankHeard symbol = symbol ↔ isQuoteSymbol symbol = false := by
  cases hq : isQuoteSymbol symbol with
  | false => simp [blankHeard, hq]
  | true =>
    simp only [blankHeard, hq, ↓reduceIte, reduceCtorEq, iff_false]
    rintro rfl
    exact absurd hq (by decide)

theorem table_directed (h : Quotable table tape blank) :
    (directed table.initialState blank tape).program.table =
      { table with
        rules := []
        blank := blankHeard table.blank
        initialTape := tapeHeard table.initialTape } := by
  have hblank : (directed table.initialState blank tape).program.table.blank =
      blankHeard table.blank := by
    rw [h.blank_eq, blankHeard, isQuoteSymbol_toString]
    simp only [Draft.program, directed]
    split <;> rfl
  have hkept : table.initialTape.takeWhile (fun symbol => !isQuoteSymbol symbol) =
      (untilQuote tape).map Char.toString := by
    rw [h.tape_eq, List.takeWhile_map, untilQuote]
    congr 2
    exact funext fun c => congrArg (! ·) (isQuoteSymbol_toString c)
  have htape : (directed table.initialState blank tape).program.table.initialTape =
      tapeHeard table.initialTape := by
    rw [tapeHeard, hkept]
    simp only [Draft.program, directed]
    cases untilQuote tape <;> rfl
  rw [← hblank, ← htape]
  rfl

theorem warnings_directed (h : Quotable table tape blank) :
    (directed state blank tape).warnings.toList = blankReport table.blank := by
  rw [blankReport, h.blank_eq, isQuoteSymbol_toString, directed]
  cases isQuote blank <;> rfl

/-- A table that can be written down whatever quote stands on its tape or is its blank, with no two
kinds of quotes on the tape. -/
structure Delimited (table : Table) : Prop where
  rules : ∀ rule ∈ table.rules, WritableRule rule
  keys : (table.rules.map Rule.key).Nodup
  directives : ∃ tape blank, tape ≠ [] ∧ Quotable table tape blank

theorem Delimited.exact (h : Delimited table) : Exact table.rules where
  one := fun rule hr => by
    obtain ⟨a, _, ha, _⟩ := (h.rules rule hr).symbols
    exact ⟨a, ha⟩
  nodup := h.keys

theorem Delimited.initialTape_ne_nil (h : Delimited table) : table.initialTape ≠ [] := by
  obtain ⟨tape, _, hne, hq⟩ := h.directives
  rw [hq.tape_eq]
  simpa using hne

theorem ofText_source_of_delimited (h : Delimited table) :
    Program.ofText table.source =
      { table := { table with
          rules := regroup table.rules
          blank := blankHeard table.blank
          initialTape := tapeHeard table.initialTape }
        warnings := blankReport table.blank } := by
  obtain ⟨tape, blank, _, hq⟩ := h.directives
  rw [ofText_source_of_quotable hq (fun rule hr => (h.rules rule hr).described)
    (fun rule hr => (h.rules rule hr).survives) h.exact, table_directed hq, warnings_directed hq]

/-- The reader ends a value at its first quote, of whichever kind. So a tape is read back up to its
first quote, a blank that is a quote is reported, and nothing is lost just where there is none. -/
theorem ofText_source_until_quote (h : Delimited table) :
    Program.ofText table.source =
        { table := { table with
            rules := regroup table.rules
            blank := blankHeard table.blank
            initialTape := tapeHeard table.initialTape }
          warnings := blankReport table.blank } ∧
      ((Program.ofText table.source).table.initialTape = table.initialTape ∧
          (Program.ofText table.source).table.blank = table.blank ∧
          (Program.ofText table.source).warnings = [] ↔
        (∀ symbol ∈ table.initialTape, isQuoteSymbol symbol = false) ∧
          isQuoteSymbol table.blank = false) := by
  refine ⟨ofText_source_of_delimited h, ?_⟩
  rw [ofText_source_of_delimited h]
  simp only
  rw [tapeHeard_eq_self_iff h.initialTape_ne_nil, blankHeard_eq_self_iff]
  refine and_congr_right fun _ => and_iff_left_of_imp fun hb => ?_
  simp [blankReport, hb]

/-- A tape with an apostrophe inside, and a double quote for a blank. -/
def apostropheTable : Table where
  rules := [⟨"q", .one "a", some "b", .right, "q"⟩]
  initialState := "q"
  blank := "\""
  initialTape := ["a", "'", "b"]

theorem delimited_apostropheTable : Delimited apostropheTable where
  rules := by
    intro rule hr
    simp only [apostropheTable, List.mem_singleton] at hr
    rw [hr]
    exact ⟨by decide, by decide, ⟨_, _, rfl, rfl, by decide, by decide, by decide⟩, by decide⟩
  keys := by decide
  directives :=
    ⟨['a', '\'', 'b'], '"', by decide,
      { initialState := ⟨by decide, List.all_eq_true.mp (by decide)⟩
        tape_eq := rfl
        blank_eq := rfl
        tape_one_line := forall_eq_false_of_all (by decide)
        blank_one_line := by decide
        quotes := by decide }⟩

theorem ofText_source_until_quote_apostrophe :
    Delimited apostropheTable ∧
      (Program.ofText apostropheTable.source).table.initialTape = ["a"] ∧
      (Program.ofText apostropheTable.source).warnings =
        [⟨2, "blank: '\"'", .blankNotOneCharacter⟩] := by
  have h := (ofText_source_until_quote delimited_apostropheTable).1
  refine ⟨delimited_apostropheTable, ?_, ?_⟩
  · rw [h]
    rfl
  · rw [h]
    rfl

/-- What is written for the table is not read back as it was. -/
theorem apostropheTable_not_read_back :
    Delimited apostropheTable ∧
      ¬((Program.ofText apostropheTable.source).table.initialTape = apostropheTable.initialTape ∧
        (Program.ofText apostropheTable.source).table.blank = apostropheTable.blank ∧
        (Program.ofText apostropheTable.source).warnings = []) := by
  refine ⟨delimited_apostropheTable, fun ⟨ht, _⟩ => ?_⟩
  rw [ofText_source_of_delimited delimited_apostropheTable] at ht
  exact absurd ht (by decide)

end TapeMachine.Source
