import TapeMachine.Proofs.Source.Extraction
import TapeMachine.Proofs.Source.Overrides
import TapeMachine.Proofs.Source.Spacing
import TapeMachine.Proofs.Source.StateNames
import TapeMachine.Proofs.Text.Lines

namespace TapeMachine.Source

open Text Table

variable {line name symbol written : List Char} {lines : List (List Char)}
variable {rule : RuleLine} {blank state : String} {c : Char}

/-- A symbol that some line can hold. -/
structure SymbolText (text : List Char) : Prop where
  ne_nil : text ≠ []
  one_line : ∀ c ∈ text, isLineEnd c = false

/-- A character that can stand between quotes on a line. -/
structure Plain (c : Char) : Prop where
  no_quote : isQuote c = false
  one_line : isLineEnd c = false

/-- A rule as lines describe it. -/
structure DescribedRule (rule : Rule) : Prop where
  source : StateName rule.source.toList
  symbols : ∃ a w, rule.read = .one a ∧ rule.write = some w ∧ SymbolText a.toList ∧
    SymbolText w.toList
  target : TargetName rule.target.toList

/-- A table as lines describe it. -/
structure Described (table : Table) : Prop where
  initialState : table.initialState.toList ≠ [] ∧ ∀ c ∈ table.initialState.toList, isWord c = true
  blank : ∃ c, table.blank = c.toString ∧ Plain c
  initialTape : ∃ tape : List Char, table.initialTape = tape.map Char.toString ∧ tape ≠ [] ∧
    ∀ c ∈ tape, Plain c
  rules : ∀ rule ∈ table.rules, DescribedRule rule
  exact : Exact table.rules

theorem content_subset (line : List Char) : Draft.content line ⊆ line :=
  List.Subset.trans (trim_subset _) stripComment_prefix.subset

/-- A comment can no more be found when the blanks in front are gone. -/
theorem withoutComment_content (line : List Char) :
    withoutComment (Draft.content line) = Draft.content line := by
  obtain ⟨before, after, he, hb, _⟩ := exists_trim (withoutComment line)
  have hp : before ++ Draft.content line <+: withoutComment line := ⟨after, he.symm⟩
  have hs := stripComment_of_prefix hp stripComment_stripComment
  rw [stripComment_blank_append hb (.inl rfl)] at hs
  exact List.append_cancel_left hs

theorem trim_dropLast_content (line : List Char) :
    trim (Draft.content line).dropLast <+: Draft.content line := by
  have hd : (Draft.content line).dropLast <+: Draft.content line := List.dropLast_prefix _
  have hl : trimLeft (Draft.content line).dropLast = (Draft.content line).dropLast := by
    refine trimLeft_eq_self fun c hc => ?_
    obtain ⟨rest, hr⟩ := hd
    refine head?_trim (?_ : (Draft.content line).head? = some c)
    rw [← hr, List.head?_append, hc]
    rfl
  have hr : trimRight (Draft.content line).dropLast <+: (Draft.content line).dropLast :=
    List.rdropWhile_prefix _ _
  rw [trim, hl]
  exact hr.trans hd

theorem tells_of_reading {one : Line} (h : reading line = one) :
    one.Tells (Draft.content line) := by
  rw [← h]
  exact read_tells (Draft.content line)

theorem stateName_of_header (h : reading line = .header name)
    (hl : ∀ c ∈ line, isLineEnd c = false) : StateName name := by
  have ht := tells_of_reading h
  obtain ⟨hlead, _, hbrace, hname, hne⟩ := ht
  have hp : name <+: Draft.content line := hname ▸ trim_dropLast_content line
  exact
    { ne_nil := hne
      trimmed := by rw [hname, trim_trim]
      no_brace := fun hm => hbrace (hp.subset hm)
      uncommented := stripComment_of_prefix hp (withoutComment_content line)
      no_lead := fun lead hm hn => hlead lead hm (hn.trans hp)
      one_line := fun c hc => hl c (content_subset line (hp.subset hc)) }

theorem ruleLine_facts (h : reading line = .rule (.ok rule)) :
    (∀ symbol ∈ rule.symbols, symbol ⊆ line) ∧
      (∀ written, rule.write = some written → written ⊆ line) ∧ TargetName rule.target := by
  have ht := tells_of_reading h
  obtain ⟨options, hs, hw, hstep⟩ := ruleLine_read_eq_ok (Eq.symm ht)
  obtain ⟨hsub, ho⟩ := splitSymbols_subset hs
  have hc := content_subset line
  refine ⟨fun symbol hm => List.Subset.trans (hsub symbol hm) hc, fun written he => ?_,
    targetName_of_step hstep⟩
  rw [hw] at he
  exact List.Subset.trans (read_write_subset he) (List.Subset.trans ho hc)

theorem input_facts {value : List Char} (h : reading line = .input value)
    (hl : ∀ c ∈ line, isLineEnd c = false) : ∀ c ∈ value, Plain c := by
  have ht := tells_of_reading h
  exact fun c hc => ⟨(ht c hc).1, hl c (content_subset line (ht c hc).2)⟩

theorem blank_facts (h : reading line = .blank c) (hl : ∀ c ∈ line, isLineEnd c = false) :
    Plain c := by
  have ht := tells_of_reading h
  exact ⟨ht.1, hl c (content_subset line ht.2)⟩

theorem start_facts (h : reading line = .start name) :
    name ≠ [] ∧ ∀ c ∈ name, isWord c = true := by
  have ht := tells_of_reading h
  exact ht

/-- A symbol that is written empty is the blank, so no rule reads or writes the empty symbol. -/
theorem describedRule_meaning (hs : StateName state.toList) (hb : SymbolText blank.toList)
    (hm : ∀ c ∈ symbol, isLineEnd c = false)
    (hw : ∀ written, rule.write = some written → ∀ c ∈ written, isLineEnd c = false)
    (ht : TargetName rule.target) : DescribedRule (rule.meaning blank state symbol) := by
  have hr : SymbolText (if symbol = [] then blank else String.ofList symbol).toList := by
    split
    next => exact hb
    next hn => exact ⟨by simpa using hn, by simpa using hm⟩
  refine ⟨hs, ⟨_, _, rfl, rfl, hr, ?_⟩, by simpa [RuleLine.meaning] using ht⟩
  split
  next => exact hr
  next => exact hb
  next written hn he =>
    exact ⟨by simpa using hn, by simpa using hw written he⟩

theorem plain_blank_ofLines (h : ∀ line ∈ lines, ∀ c ∈ line, isLineEnd c = false) :
    Plain (Draft.ofLines lines).blank := by
  rcases foldl_addLine_blank lines {} 1 with he | hm
  · rw [Draft.ofLines, he]
    exact ⟨by decide, by decide⟩
  · obtain ⟨line, hl, he⟩ := List.mem_map.mp hm
    exact blank_facts he (h line hl)

theorem plain_input_ofLines (h : ∀ line ∈ lines, ∀ c ∈ line, isLineEnd c = false) :
    ∀ c ∈ (Draft.ofLines lines).input, Plain c := by
  rcases foldl_addLine_input lines {} 1 with he | hm
  · rw [Draft.ofLines, he]
    simp
  · obtain ⟨line, hl, he⟩ := List.mem_map.mp hm
    exact input_facts he (h line hl)

theorem initialState_ofLines (lines : List (List Char)) :
    (Draft.ofLines lines).initialState.toList ≠ [] ∧
      ∀ c ∈ (Draft.ofLines lines).initialState.toList, isWord c = true := by
  rcases foldl_addLine_initialState lines {} 1 with he | ⟨name, hm, he⟩
  · rw [Draft.ofLines, he]
    exact ⟨by decide, List.all_eq_true.mp (by decide)⟩
  · obtain ⟨line, _, hr⟩ := List.mem_map.mp hm
    rw [Draft.ofLines, he, String.toList_ofList]
    exact start_facts hr

/-- Without an input, and with an empty one, the tape is the one that every table starts from. -/
theorem initialTape_ofLines (h : ∀ line ∈ lines, ∀ c ∈ line, isLineEnd c = false) :
    ∃ tape : List Char, (Program.ofLines lines).table.initialTape = tape.map Char.toString ∧
      tape ≠ [] ∧ ∀ c ∈ tape, Plain c := by
  have hinput := plain_input_ofLines h
  cases hi : (Draft.ofLines lines).input with
  | nil =>
    refine ⟨['1', '0', '1', '1'], ?_, by simp, fun c hc => ?_⟩
    · simp only [Program.ofLines, Draft.program, hi]
      rfl
    · exact ⟨forall_eq_false_of_all (by decide) c hc, forall_eq_false_of_all (by decide) c hc⟩
  | cons c rest =>
    refine ⟨c :: rest, ?_, by simp, hi ▸ hinput⟩
    simp only [Program.ofLines, Draft.program, hi]

theorem describedRule_ofLines (h : ∀ line ∈ lines, ∀ c ∈ line, isLineEnd c = false)
    {found : Rule} (hr : found ∈ (Program.ofLines lines).table.rules) : DescribedRule found := by
  have hb : SymbolText (Program.ofLines lines).table.blank.toList := by
    have hblank := plain_blank_ofLines h
    change SymbolText (Draft.ofLines lines).blank.toString.toList
    exact ⟨by simp, by simpa using hblank.one_line⟩
  obtain ⟨hs, rule, symbol, hl, hm, he⟩ := mem_rulesHeard (mem_ofLines_rules hr)
  obtain ⟨name, hh, hn⟩ := hs.resolve_left (by simp)
  obtain ⟨top, ht, hth⟩ := List.mem_map.mp hh
  obtain ⟨body, hbody, hbr⟩ := List.mem_map.mp hl
  obtain ⟨hsym, hw, htarget⟩ := ruleLine_facts hbr
  have hname : StateName found.source.toList := by
    rw [hn, String.toList_ofList]
    exact stateName_of_header hth (h top ht)
  rw [he]
  exact describedRule_meaning hname hb (fun c hc => h body hbody c (hsym symbol hm hc))
    (fun written hwr c hc => h body hbody c (hw written hwr hc)) htarget

/-- Whatever lines say, they describe a table. -/
theorem described_ofLines (h : ∀ line ∈ lines, ∀ c ∈ line, isLineEnd c = false) :
    Described (Program.ofLines lines).table where
  initialState := initialState_ofLines lines
  blank := ⟨_, rfl, plain_blank_ofLines h⟩
  initialTape := initialTape_ofLines h
  rules := fun _ hr => describedRule_ofLines h hr
  exact := ofLines_exact lines

theorem described_ofText (text : String) : Described (Program.ofText text).table :=
  described_ofLines fun _ hl _ hc => isLineEnd_of_mem_lines hl hc

end TapeMachine.Source
