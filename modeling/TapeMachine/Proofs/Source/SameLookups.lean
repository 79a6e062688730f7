import TapeMachine.Proofs.Source.Necessity

namespace TapeMachine.Source

open Text Table

variable {table : Table}

theorem mem_reread_of_lookup (h : Described table)
    (hl : ∀ state symbol, (Program.ofText table.source).table.lookup state symbol =
      table.lookup state symbol) : ∀ rule ∈ table.rules, rule ∈ reread table := by
  intro rule hr
  obtain ⟨a, ha⟩ := h.exact.one rule hr
  have hf : table.lookup rule.source a = some rule :=
    (lookup_eq_some_iff h.exact).mpr ⟨hr, by rw [Rule.key, ha]⟩
  rw [← hl, lookup_eq_some_iff (described_ofText _).exact] at hf
  exact mem_reread h hf.1

theorem lookup_of_survives (h : Described table) (hs : ∀ rule ∈ table.rules, Survives rule)
    (state symbol : String) :
    (Program.ofText table.source).table.lookup state symbol = table.lookup state symbol := by
  rw [ofText_source_of_survives h hs]
  exact lookup_of_perm h.exact (regroup_perm table.rules).symm state symbol

/-- The text of a table that was itself read from a text has the directives of the table, and has
its transition function exactly where each of the rules survives. -/
theorem lookup_ofText_source_iff (text : String) :
    let table := (Program.ofText text).table
    let other := (Program.ofText table.source).table
    (other.initialState = table.initialState ∧ other.blank = table.blank ∧
        other.initialTape = table.initialTape) ∧
      ((∀ state symbol, other.lookup state symbol = table.lookup state symbol) ↔
        ∀ rule ∈ table.rules, Survives rule) := by
  intro table other
  have h : Described table := described_ofText text
  refine ⟨ofText_source_directives h, fun hl => ?_, fun hs => lookup_of_survives h hs⟩
  exact survives_of_mem_reread h (mem_reread_of_lookup h hl)

/-- A block whose name is the word of a directive, which a blank before the colon lets through. -/
def collidingText : String :=
  "input :\n a: \x7bR: a\x7d\n"

def collidingRule : Rule :=
  ⟨"input", .one "a", some "a", .right, "a"⟩

theorem reading_collidingRule :
    reading " a: \x7bR: a\x7d".toList = .rule (.ok ⟨[['a']], none, .right, ['a']⟩) := by
  have ho : Options.read " \x7bR: a\x7d".toList = ⟨none, some (.right, ['a'])⟩ := by
    rw [Options.read, split_of_none (by decide)]
    rfl
  have hb : Line.read "a: \x7bR: a\x7d".toList = .rule (RuleLine.read "a: \x7bR: a\x7d".toList) :=
    read_of_brace (by decide) (by decide)
  have hs : splitSymbols "a: \x7bR: a\x7d".toList = .ok ([['a']], " \x7bR: a\x7d".toList) := rfl
  rw [show reading " a: \x7bR: a\x7d".toList = Line.read "a: \x7bR: a\x7d".toList from rfl, hb,
    RuleLine.read, hs]
  simp only [bind, Except.bind, ho]

theorem rules_collidingText : (Program.ofText collidingText).table.rules = [collidingRule] := by
  have hh : reading "input :".toList = .header "input".toList := rfl
  have hr := reading_collidingRule
  have hl : lines collidingText.toList = ["input :".toList, " a: \x7bR: a\x7d".toList] := rfl
  have hb : ∀ blank, rulesHeard blank none
      (["input :".toList, " a: \x7bR: a\x7d".toList].map reading) = [collidingRule] := by
    intro blank
    rw [List.map_cons, List.map_cons, hh, hr]
    rfl
  have hw : (Draft.ofLines ["input :".toList, " a: \x7bR: a\x7d".toList]).warnings = #[] := by
    refine foldl_addLine_warnings ?_ fun _ line hf => ?_
    · intro line hm
      simp only [List.mem_cons, List.not_mem_nil, or_false] at hm
      rcases hm with rfl | rfl
      · exact .inl ⟨_, hh⟩
      · exact .inr ⟨_, hr⟩
    · cases Option.some.inj hf
      exact ⟨_, hh⟩
  rw [Program.ofText, hl, (ofLines_of_nodup (by rw [hb]; decide) hw).1, hb]

/-- A state whose name is the word of a directive loses its rules. -/
theorem lookup_collidingText :
    let table := (Program.ofText collidingText).table
    table.lookup "input" "a" = some collidingRule ∧
      (Program.ofText table.source).table.lookup "input" "a" = none := by
  intro table
  have h : Described table := described_ofText collidingText
  have hrules : table.rules = [collidingRule] := rules_collidingText
  refine ⟨?_, ?_⟩
  · rw [lookup, hrules]
    rfl
  · rw [Option.eq_none_iff_forall_not_mem]
    intro rule hr
    rw [Option.mem_def, lookup_eq_some_iff (described_ofText _).exact] at hr
    have hq : ∀ rule ∈ table.rules, ¬BothQuotes (readText rule) := by
      rw [hrules]
      decide
    have hs := source_of_mem_reread h hq (mem_reread h hr.1)
    have hsource : rule.source = "input" := congrArg Prod.fst hr.2
    rw [hsource] at hs
    exact hs (by decide)

end TapeMachine.Source
