import TapeMachine.Proofs.Source.DirectiveOrder
import TapeMachine.Proofs.Source.SymbolLists

namespace TapeMachine.Source

open Text

variable {symbol indent options text : List Char} {symbols : List (List Char)}
variable {blank : String} {old new rest : List Line}

/-- A rule line with these symbols before its colon and this text after it. -/
def ruleFrom (symbols : List (List Char)) (text : List Char) : Except Reason RuleLine :=
  match (Options.read text).step with
  | none => .error .noMove
  | some (move, target) => .ok ⟨symbols, (Options.read text).write, move, target⟩

theorem read_of_splitSymbols {line : List Char} (h : splitSymbols line = .ok (symbols, text)) :
    RuleLine.read line = ruleFrom symbols text := by
  rw [RuleLine.read, h]
  rfl

/-- A line describes for each of its symbols what it would describe for that symbol alone. -/
theorem rules_ruleFrom (blank state : String) (symbols : List (List Char)) (text : List Char) :
    Line.rules blank state (.rule (ruleFrom symbols text)) =
      symbols.flatMap fun symbol => Line.rules blank state (.rule (ruleFrom [symbol] text)) := by
  simp only [ruleFrom]
  cases (Options.read text).step with
  | none => simp [Line.rules]
  | some step => simp [Line.rules, RuleLine.meaning, List.map_eq_flatMap]

def inQuotes (symbol : List Char) : List Char :=
  '\'' :: (symbol ++ ['\''])

/-- One line for several symbols. -/
def sharedLine (indent : List Char) (symbols : List (List Char)) (options : List Char) :
    List Char :=
  indent ++ '[' :: (listed (symbols.map inQuotes) ++ ']' :: ':' :: options)

/-- A line for one symbol. -/
def ownLine (indent options symbol : List Char) : List Char :=
  indent ++ (inQuotes symbol ++ ':' :: options)

theorem brace_mem_remainder (h : (trimLeft options).head? = some '{') :
    '{' ∈ remainder options := by
  obtain ⟨text, ht⟩ := List.head?_eq_some_iff.mp h
  have hs : options.takeWhile isBlank ++ '{' :: text = options := by
    rw [← ht]
    exact List.takeWhile_append_dropWhile
  rw [← hs, remainder_append_brace fun c hc => List.mem_takeWhile_imp hc]
  simp

theorem bracketable_inQuotes (h : '\'' ∉ symbol) : Bracketable (inQuotes symbol) :=
  bracketable_quoted (by decide) h

theorem split_inQuotes (hne : symbols ≠ []) (h : ∀ symbol ∈ symbols, '\'' ∉ symbol) :
    (split ',' (listed (symbols.map inQuotes))).map unquote = symbols := by
  have hu : ∀ symbol ∈ symbols, unquote (inQuotes symbol) = id symbol := fun symbol _ =>
    unquote_quoted (by decide) symbol
  have hs := @split_listed [] (symbols.map inQuotes) (by simpa using hne)
    (List.forall_mem_map.mpr fun symbol hs => find?_quoted (by decide) (h symbol hs))
    (List.forall_mem_map.mpr fun symbol hs => (bracketable_inQuotes (h symbol hs)).closed)
    (List.forall_mem_nil _)
  rw [List.map_map] at hs
  exact hs.trans ((List.map_congr_left hu).trans (List.map_id symbols))

theorem reading_sharedLine (hi : ∀ c ∈ indent, isBlank c = true) (hne : symbols ≠ [])
    (h : ∀ symbol ∈ symbols, '\'' ∉ symbol) (ho : (trimLeft options).head? = some '{') :
    reading (sharedLine indent symbols options) = .rule (ruleFrom symbols (remainder options)) := by
  have hl : Bracketable (listed (symbols.map inQuotes)) :=
    bracketable_listed (List.forall_mem_map.mpr fun symbol hs => bracketable_inQuotes (h symbol hs))
  have hb := brace_mem_remainder ho
  rw [reading, sharedLine, content_blank_append hi, content_brackets hl,
    read_of_brace (no_lead_of_head (by decide) _) (by simp [hb])]
  congr 1
  apply read_of_splitSymbols
  rw [splitSymbols_brackets hl, split_inQuotes hne h, afterSymbols_colon]

theorem reading_ownLine (hi : ∀ c ∈ indent, isBlank c = true) (h : '\'' ∉ symbol)
    (ho : (trimLeft options).head? = some '{') :
    reading (ownLine indent options symbol) = .rule (ruleFrom [symbol] (remainder options)) := by
  have hq := bracketable_inQuotes h
  have hb := brace_mem_remainder ho
  have hl : trimLeft (inQuotes symbol) = inQuotes symbol := trimLeft_quoted (by decide) _
  have hc : inQuotes symbol ++ ':' :: remainder options =
      '\'' :: (symbol ++ '\'' :: ':' :: remainder options) := by simp [inQuotes]
  rw [reading, ownLine, content_blank_append hi,
    content_append_colon (hq.uncommented true) hq.closed, hl, hc, read_of_brace (no_lead_of_head (by decide) _) (by simp [hb])]
  congr 1
  apply read_of_splitSymbols
  rw [splitSymbols_quoted (by decide) h, afterSymbols_colon]

/-- Lines that open no block may be exchanged for others that describe the same rules. -/
theorem rulesHeard_exchange (ho : ∀ one ∈ old, ∀ name, one ≠ .header name)
    (hn : ∀ one ∈ new, ∀ name, one ≠ .header name)
    (hr : ∀ state, old.flatMap (Line.rules blank state) = new.flatMap (Line.rules blank state))
    (before : List Line) (current : Option String) :
    rulesHeard blank current (before ++ (old ++ rest)) =
      rulesHeard blank current (before ++ (new ++ rest)) := by
  induction before generalizing current with
  | nil =>
    rw [List.nil_append, List.nil_append, rulesHeard_block ho, rulesHeard_block hn, funext hr]
  | cons one before ih =>
    rw [List.cons_append, List.cons_append, rulesHeard_cons, ih,
      rulesHeard_cons _ _ one (before ++ (new ++ rest))]

/-- A line with a list of symbols says as much as a line for each of them with the same options,
however these may be written. -/
theorem ofText_own_lines {text other : String} {before after : List (List Char)}
    (hi : ∀ c ∈ indent, isBlank c = true) (hne : symbols ≠ [])
    (hq : ∀ symbol ∈ symbols, '\'' ∉ symbol) (ho : (trimLeft options).head? = some '{')
    (ht : HasLines text (before ++ sharedLine indent symbols options :: after))
    (hn : HasLines other (before ++ (symbols.map (ownLine indent options) ++ after))) :
    (Program.ofText other).table = (Program.ofText text).table := by
  have hshared := reading_sharedLine hi hne hq ho
  have hown : (symbols.map (ownLine indent options)).map reading =
      symbols.map fun symbol => .rule (ruleFrom [symbol] (remainder options)) := by
    rw [List.map_map]
    exact List.map_congr_left fun symbol hs => reading_ownLine hi (hq symbol hs) ho
  rw [ofText_of_hasLines ht, ofText_of_hasLines hn]
  symm
  apply ofLines_table_congr
  · intro directive
    have hs : ∀ body, directive.said? (.rule body) = none := fun body => by
      cases directive <;> rfl
    simp [lastSaid?, hshared, hown, hs, List.filterMap_append]
  · intro blank
    have hr : ∀ state, [Line.rule (ruleFrom symbols (remainder options))].flatMap
        (Line.rules blank state) =
          (symbols.map fun symbol => Line.rule (ruleFrom [symbol] (remainder options))).flatMap
            (Line.rules blank state) := by
      intro state
      rw [List.flatMap_singleton, rules_ruleFrom, List.flatMap_map]
    rw [List.map_append, List.map_cons, hshared, List.map_append, List.map_append, hown]
    exact rulesHeard_exchange (by simp) (by simp) hr (before.map reading) none

def sharedText : String :=
  "s:\n  ['', 'a,]', '# \"b']: \x7bwrite: '#\x7d', R: t # don't\n blank: 'B'\n B: \x7bL: s\x7d\n"

def ownText : String :=
  "s:\n  '': \x7bwrite: '#\x7d', R: t # don't\n  'a,]': \x7bwrite: '#\x7d', R: t # don't\n" ++
    "  '# \"b': \x7bwrite: '#\x7d', R: t # don't\n blank: 'B'\n B: \x7bL: s\x7d"

/-- One of the symbols is the blank of a later line, whose rule is overridden further down; the
options lack their closing brace and end in a comment. -/
theorem ofText_own_lines_laterBlank :
    let indent := "  ".toList
    let symbols := ["".toList, "a,]".toList, "# \"b".toList]
    let options := " \x7bwrite: '#\x7d', R: t # don't".toList
    let before := ["s:".toList]
    let after := [" blank: 'B'".toList, " B: \x7bL: s\x7d".toList]
    (∀ c ∈ indent, isBlank c = true) ∧ symbols ≠ [] ∧ (∀ symbol ∈ symbols, '\'' ∉ symbol) ∧
      (trimLeft options).head? = some '{' ∧
      HasLines sharedText (before ++ sharedLine indent symbols options :: after) ∧
      HasLines ownText (before ++ (symbols.map (ownLine indent options) ++ after)) ∧
      (Program.ofText ownText).table = (Program.ofText sharedText).table := by
  intro indent symbols options before after
  have hindent : ∀ c ∈ indent, isBlank c = true := List.all_eq_true.mp (by decide +kernel)
  have hsymbols : symbols ≠ [] := by simp [symbols]
  have hquotes : ∀ symbol ∈ symbols, '\'' ∉ symbol := by decide +kernel
  have hoptions : (trimLeft options).head? = some '{' := by decide +kernel
  have hshared : HasLines sharedText (before ++ sharedLine indent symbols options :: after) :=
    .inl (by decide +kernel)
  have hown : HasLines ownText (before ++ (symbols.map (ownLine indent options) ++ after)) :=
    .inl (by decide +kernel)
  exact ⟨hindent, hsymbols, hquotes, hoptions, hshared, hown,
    ofText_own_lines hindent hsymbols hquotes hoptions hshared hown⟩

end TapeMachine.Source
