import TapeMachine.Proofs.Source.LastClause
import TapeMachine.Proofs.Source.Reports

namespace TapeMachine.Source

open Text Table

variable {blank : String} {accepted : List Accepted} {warning : Warning}
variable {lines : List (List Char)}

/-- What an accepted symbol reads once the blank is known: an empty one is the blank. -/
def Accepted.reads (blank : String) (accepted : Accepted) : String :=
  if accepted.symbol = "" then blank else accepted.symbol

/-- What is written over it: the symbol read where nothing is named, the blank where that is
empty. -/
def Accepted.writes (blank : String) (accepted : Accepted) : String :=
  match accepted.write with
  | none => accepted.reads blank
  | some written => if written = "" then blank else written

/-- The key that an accepted symbol gets once the blank is known. -/
def Accepted.key (blank : String) (accepted : Accepted) : String × Pattern :=
  (accepted.state, .one (accepted.reads blank))

theorem Accepted.rule_eq (blank : String) (accepted : Accepted) :
    accepted.rule blank = ⟨accepted.state, .one (accepted.reads blank),
      some (accepted.writes blank), accepted.move, accepted.target⟩ := by
  unfold Accepted.rule Accepted.writes
  cases accepted.write with
  | none => rfl
  | some written =>
    by_cases he : written = ""
    · rw [he]
      rfl
    · simp [he, Accepted.reads]

/-- No other with its key comes after an accepted symbol. -/
def Accepted.IsLast (blank : String) (accepted : List Accepted) (last : Accepted) : Prop :=
  ∃ before after, accepted = before ++ last :: after ∧
    ∀ later ∈ after, later.key blank ≠ last.key blank

theorem lastOf_of_isLast {last : Accepted} (h : last.IsLast blank accepted) :
    lastOf (last.key blank) (accepted.map (Accepted.rule blank)) = some (last.rule blank) := by
  obtain ⟨before, after, rfl, hlast⟩ := h
  have hafter : (after.map (Accepted.rule blank)).reverse.find?
      (fun rule => decide (rule.key = last.key blank)) = none := by
    rw [List.find?_eq_none]
    intro rule hm
    obtain ⟨later, hl, rfl⟩ := List.mem_map.mp (List.mem_reverse.mp hm)
    exact decide_eq_true_eq.mp.mt (hlast later hl)
  rw [lastOf, List.map_append, List.map_cons, List.reverse_append, List.reverse_cons,
    List.find?_append, List.find?_append, hafter]
  simp [Accepted.key, Rule.key, Accepted.rule_eq]

theorem Accepted.override_isDuplicate (blank : String) (accepted : Accepted) :
    (accepted.override blank).reason.isDuplicate = true := rfl

/-- A key has its place where it came first. -/
theorem collect_keys (blank : String) (accepted : List Accepted) :
    (collect blank accepted).1.map Rule.key = distinct (accepted.map (Accepted.key blank)) := by
  induction accepted using List.reverseRecOn with
  | nil => rfl
  | append_singleton accepted next ih =>
    have hk : (next.rule blank).key = next.key blank := rfl
    rw [collect_concat, put_keys, ih, List.map_append, List.map_singleton, distinct_concat, hk]
    by_cases h : next.key blank ∈ accepted.map (Accepted.key blank)
    · rw [if_pos h, if_pos (mem_distinct.mpr h)]
    · rw [if_neg h, if_neg (fun hd => h (mem_distinct.mp hd))]

/-- Of the accepted symbols each gives a rule or overrides one. -/
theorem length_collect (blank : String) (accepted : List Accepted) :
    (collect blank accepted).1.length + (collect blank accepted).2.length = accepted.length := by
  induction accepted using List.reverseRecOn with
  | nil => rfl
  | append_singleton accepted next ih =>
    have hk := congrArg List.length
      (put_keys (collect blank accepted).1 (next.rule blank))
    rw [List.length_map] at hk
    rw [collect_concat, List.length_append, List.length_singleton, hk]
    by_cases h : (next.rule blank).key ∈ (collect blank accepted).1.map Rule.key
    · rw [if_pos h, if_pos (any_sameKey_iff.mpr h)]
      simp only [List.length_map, List.length_append, List.length_singleton]
      omega
    · rw [if_neg h, if_neg (fun ha => h (any_sameKey_iff.mp ha))]
      simp only [List.length_map, List.length_append, List.length_singleton]
      omega

/-- An override is told of a symbol whose key has come before. -/
theorem mem_collect_overrides (h : warning ∈ (collect blank accepted).2) :
    ∃ before next after, accepted = before ++ next :: after ∧ warning = next.override blank ∧
      next.key blank ∈ before.map (Accepted.key blank) := by
  induction accepted using List.reverseRecOn with
  | nil => simp [collect] at h
  | append_singleton accepted last ih =>
    have hearlier : warning ∈ (collect blank accepted).2 →
        ∃ before next after, accepted ++ [last] = before ++ next :: after ∧
          warning = next.override blank ∧ next.key blank ∈ before.map (Accepted.key blank) := by
      intro hw
      obtain ⟨before, next, after, he, hn, hk⟩ := ih hw
      exact ⟨before, next, after ++ [last], by simp [he], hn, hk⟩
    rw [collect_concat] at h
    split at h
    next ha =>
      rcases List.mem_append.mp h with h | h
      · exact hearlier h
      · refine ⟨accepted, last, [], rfl, List.mem_singleton.mp h, ?_⟩
        rw [any_sameKey_iff, collect_keys, mem_distinct] at ha
        exact ha
    next => exact hearlier h

/-- The character that a line declares the blank. -/
def declaredBlank? : Line → Option Char
  | .blank symbol => some symbol
  | _ => none

/-- The blank that the last of the lines which declare one tells. -/
def finalBlank (lines : List (List Char)) : Char :=
  ((lines.map reading).filterMap declaredBlank?).getLast?.getD '_'

theorem ofLines_blank (lines : List (List Char)) :
    (Draft.ofLines lines).blank = finalBlank lines := by
  refine foldl_addLine_last Draft.blank declaredBlank? (fun draft line number => ?_) lines {} 1
  rw [(addLine_fields draft line number).2.1]
  cases reading line <;> rfl

/-- How a program comes from the symbols that its lines accept: under each key the last of them
counts, in the place of the first, and each of the others is reported. -/
structure LastClauseCounts (lines : List (List Char)) (accepted : List Accepted)
    (program : Program) : Prop where
  blank : program.table.blank = (finalBlank lines).toString
  lookup : ∀ last : Accepted, last.IsLast program.table.blank accepted →
    program.table.lookup last.state (last.reads program.table.blank) =
      some ⟨last.state, .one (last.reads program.table.blank),
        some (last.writes program.table.blank), last.move, last.target⟩
  lookup_none : ∀ state symbol, program.table.lookup state symbol = none ↔
    ∀ next ∈ accepted, next.state = state → next.reads program.table.blank ≠ symbol
  keys : program.table.rules.map (fun rule => (rule.source, rule.read)) =
    distinct (accepted.map fun next => (next.state, .one (next.reads program.table.blank)))
  length : program.table.rules.length +
    (program.warnings.filter fun warning => warning.reason.isDuplicate).length = accepted.length
  overrides : ∀ warning ∈ program.warnings, warning.reason.isDuplicate = true →
    ∃ before next after, accepted = before ++ next :: after ∧
      warning = ⟨next.line, next.text,
        .duplicate next.state (next.reads program.table.blank)⟩ ∧
      ∃ earlier ∈ before, earlier.state = next.state ∧
        earlier.reads program.table.blank = next.reads program.table.blank
  sorted : program.warnings.Pairwise fun a b => a.line ≤ b.line
  numbered : ∀ warning ∈ program.warnings, 1 ≤ warning.line ∧
    ∃ line, lines[warning.line - 1]? = some line ∧
      warning.text = String.ofList (Draft.content line)

theorem ofLines_rules (lines : List (List Char)) :
    (Program.ofLines lines).table.rules =
      (collect (Program.ofLines lines).table.blank (acceptedFrom none (lines.zipIdx 1))).1 := by
  rw [← (ofLines_adds lines).1]
  rfl

theorem byLine_trans (a b c : Warning) (hab : decide (a.line ≤ b.line) = true)
    (hbc : decide (b.line ≤ c.line) = true) : decide (a.line ≤ c.line) = true := by
  rw [decide_eq_true_eq] at hab hbc ⊢
  exact hab.trans hbc

theorem byLine_total (a b : Warning) :
    (decide (a.line ≤ b.line) || decide (b.line ≤ a.line)) = true := by
  rw [Bool.or_eq_true, decide_eq_true_eq, decide_eq_true_eq]
  exact Nat.le_total a.line b.line

theorem ofLines_sorted (lines : List (List Char)) :
    (Program.ofLines lines).warnings.Pairwise fun a b => a.line ≤ b.line := by
  have h := List.pairwise_mergeSort byLine_trans byLine_total
    ((Draft.ofLines lines).warnings.toList ++
      (collect (Draft.ofLines lines).blank.toString (Draft.ofLines lines).accepted.toList).2)
  exact h.imp fun hle => of_decide_eq_true hle

/-- Warnings of one kind that come in the order of their lines are left in their order. -/
theorem filter_byLine {kind : Warning → Bool} {warnings : List Warning}
    (h : (warnings.filter kind).Pairwise fun a b => a.line ≤ b.line) :
    (warnings.mergeSort fun a b => decide (a.line ≤ b.line)).filter kind =
      warnings.filter kind := by
  have hd : (warnings.filter kind).Pairwise fun a b => decide (a.line ≤ b.line) = true :=
    h.imp fun hle => decide_eq_true hle
  have hs := (List.sublist_mergeSort byLine_trans byLine_total hd List.filter_sublist).filter kind
  have hp := (List.mergeSort_perm warnings fun a b => decide (a.line ≤ b.line)).filter kind
  simp only [List.filter_filter, Bool.and_self] at hs
  exact (hs.eq_of_length hp.length_eq.symm).symm

theorem acceptedFrom_sorted (lines : List (List Char)) (current : Option String) (number : Nat) :
    ((acceptedFrom current (lines.zipIdx number)).map Accepted.line).Pairwise (· ≤ ·) := by
  induction lines generalizing current number with
  | nil => exact List.Pairwise.nil
  | cons line lines ih =>
    rw [List.zipIdx_cons, acceptedFrom, List.map_append, List.pairwise_append]
    have hhead : ∀ n ∈ (acceptedOn current (line, number)).map Accepted.line, n = number := by
      intro n hn
      obtain ⟨next, hm, rfl⟩ := List.mem_map.mp hn
      have hf : next ∈ acceptedFrom current [(line, number)] := by simpa [acceptedFrom] using hm
      obtain ⟨_, he, _⟩ := mem_acceptedFrom hf
      exact (Prod.mk.inj (List.mem_singleton.mp he)).2
    refine ⟨List.pairwise_of_forall_mem_list fun a ha b hb => ?_, ih _ _, fun a ha b hb => ?_⟩
    · rw [hhead a ha, hhead b hb]
    · obtain ⟨next, hm, rfl⟩ := List.mem_map.mp hb
      obtain ⟨_, he, _⟩ := mem_acceptedFrom hm
      have := (List.mem_zipIdx he).1
      rw [hhead a ha]
      omega

/-- Overrides are told in the order of the symbols. -/
theorem collect_lines_sublist (blank : String) (accepted : List Accepted) :
    ((collect blank accepted).2.map Warning.line).Sublist (accepted.map Accepted.line) := by
  induction accepted using List.reverseRecOn with
  | nil => exact List.Sublist.slnil
  | append_singleton accepted next ih =>
    rw [collect_concat, List.map_append]
    split
    next =>
      rw [List.map_append]
      exact ih.append (List.Sublist.refl _)
    next => exact ih.trans (List.sublist_append_left _ _)

theorem collect_sorted (blank : String) (lines : List (List Char)) :
    (collect blank (acceptedFrom none (lines.zipIdx 1))).2.Pairwise fun a b => a.line ≤ b.line := by
  have h := (acceptedFrom_sorted lines none 1).sublist (collect_lines_sublist blank _)
  exact List.pairwise_map.mp h

theorem ofLines_warnings (lines : List (List Char)) :
    (Program.ofLines lines).warnings =
      (reportsFrom none (lines.zipIdx 1) ++
        (collect (Program.ofLines lines).table.blank
          (acceptedFrom none (lines.zipIdx 1))).2).mergeSort
        fun a b => decide (a.line ≤ b.line) := by
  obtain ⟨ha, hw⟩ := ofLines_adds lines
  rw [← ha, ← hw]
  rfl

/-- The warnings of a program are the reports on its lines and the overrides. -/
theorem ofLines_warnings_perm (lines : List (List Char)) :
    (Program.ofLines lines).warnings.Perm
      (reportsFrom none (lines.zipIdx 1) ++
        (collect (Program.ofLines lines).table.blank
          (acceptedFrom none (lines.zipIdx 1))).2) := by
  rw [ofLines_warnings]
  exact List.mergeSort_perm _ _

theorem mem_zipIdx_one {line : List Char} {number : Nat} (h : (line, number) ∈ lines.zipIdx 1) :
    1 ≤ number ∧ lines[number - 1]? = some line := by
  obtain ⟨hl, hi, he⟩ := List.mem_zipIdx h
  exact ⟨hl, by rw [he]; exact List.getElem?_eq_getElem _⟩

theorem ofLines_numbered (h : warning ∈ (Program.ofLines lines).warnings) :
    1 ≤ warning.line ∧ ∃ line, lines[warning.line - 1]? = some line ∧
      warning.text = String.ofList (Draft.content line) := by
  rcases List.mem_append.mp ((ofLines_warnings_perm lines).mem_iff.mp h) with hr | hc
  · obtain ⟨line, _, hm, ht, _⟩ := mem_reportsFrom hr
    obtain ⟨hl, he⟩ := mem_zipIdx_one hm
    exact ⟨hl, line, he, ht⟩
  · obtain ⟨before, next, after, he, rfl, _⟩ := mem_collect_overrides hc
    obtain ⟨line, hm, ht⟩ := mem_acceptedFrom (show next ∈ acceptedFrom none (lines.zipIdx 1) by
      rw [he]; simp)
    obtain ⟨hl, hi⟩ := mem_zipIdx_one hm
    exact ⟨hl, line, hi, ht⟩

theorem not_duplicate_of_mem_reportsFrom {current : Option String}
    {numbered : List (List Char × Nat)} (h : warning ∈ reportsFrom current numbered) :
    warning.reason.isDuplicate = false := by
  obtain ⟨_, _, _, _, hf⟩ := mem_reportsFrom h
  exact faultIn_reason hf

theorem duplicate_of_mem_collect (h : warning ∈ (collect blank accepted).2) :
    warning.reason.isDuplicate = true := by
  obtain ⟨_, next, _, _, rfl, _⟩ := mem_collect_overrides h
  exact next.override_isDuplicate _

/-- The overrides among the warnings are those that the accepted symbols come to. -/
theorem filter_isDuplicate (lines : List (List Char)) :
    ((Program.ofLines lines).warnings.filter fun warning => warning.reason.isDuplicate) =
      (collect (Program.ofLines lines).table.blank (acceptedFrom none (lines.zipIdx 1))).2 := by
  have hr : (reportsFrom none (lines.zipIdx 1)).filter
      (fun warning => warning.reason.isDuplicate) = [] := by
    rw [List.filter_eq_nil_iff]
    intro warning hw
    simp [not_duplicate_of_mem_reportsFrom hw]
  have hc : (collect (Program.ofLines lines).table.blank
      (acceptedFrom none (lines.zipIdx 1))).2.filter
        (fun warning => warning.reason.isDuplicate) =
      (collect (Program.ofLines lines).table.blank (acceptedFrom none (lines.zipIdx 1))).2 :=
    List.filter_eq_self.mpr fun _ hw => duplicate_of_mem_collect hw
  rw [ofLines_warnings, filter_byLine, List.filter_append, hr, hc, List.nil_append]
  rw [List.filter_append, hr, hc, List.nil_append]
  exact collect_sorted _ _

theorem filter_isDuplicate_perm (lines : List (List Char)) :
    ((Program.ofLines lines).warnings.filter fun warning => warning.reason.isDuplicate).Perm
      (collect (Program.ofLines lines).table.blank (acceptedFrom none (lines.zipIdx 1))).2 :=
  .of_eq (filter_isDuplicate lines)

/-- In every text the last clause for a state and a symbol counts, and no clause is lost without a
word. -/
theorem ofText_lastClauseCounts (text : String) :
    LastClauseCounts (Text.lines text.toList)
      (acceptedFrom none ((Text.lines text.toList).zipIdx 1))
      (Program.ofText text) where
  blank := by
    rw [← ofLines_blank]
    rfl
  lookup := by
    intro last h
    rw [Program.ofText, lookup, select_eq_find? (ofLines_exact _).one, ofLines_rules,
      find?_collect, ← Accepted.rule_eq]
    exact lastOf_of_isLast h
  lookup_none := by
    intro state symbol
    rw [Program.ofText, lookup, select_eq_find? (ofLines_exact _).one, ofLines_rules,
      find?_collect, lastOf, List.find?_eq_none]
    simp [Rule.key, Accepted.rule_eq]
  keys := by
    rw [Program.ofText, ofLines_rules]
    exact collect_keys _ _
  length := by
    rw [Program.ofText, (filter_isDuplicate_perm _).length_eq, ofLines_rules]
    exact length_collect _ _
  overrides := by
    intro warning hw hd
    have hm := (filter_isDuplicate_perm (Text.lines text.toList)).mem_iff.mp
      (List.mem_filter.mpr ⟨hw, hd⟩)
    obtain ⟨before, next, after, he, hn, hk⟩ := mem_collect_overrides hm
    obtain ⟨earlier, hearlier, hkey⟩ := List.mem_map.mp hk
    simp only [Accepted.key, Prod.mk.injEq, Pattern.one.injEq] at hkey
    exact ⟨before, next, after, he, hn, earlier, hearlier, hkey⟩
  sorted := ofLines_sorted _
  numbered := fun _ hw => ofLines_numbered hw

def laterBlankText : String :=
  "s:\n '': \x7bwrite: x, R: t\x7d\n [a, b]: \x7bL: s\x7d # b\n a: \x7bwrite: '', N: u\x7d\n" ++
    "blank: 'b'\n"

/-- The blank is told below its rules: the second clause for it overrides the one without a symbol,
and the last clause writes it. -/
theorem ofText_lastClauseCounts_laterBlank :
    let program := Program.ofText laterBlankText
    program.table.blank = "b" ∧
      program.table.lookup "s" "b" = some ⟨"s", .one "b", some "b", .left, "s"⟩ ∧
      program.table.lookup "s" "a" = some ⟨"s", .one "a", some "b", .stay, "u"⟩ ∧
      program.table.lookup "s" "" = none ∧
      program.table.rules.map (fun rule => (rule.source, rule.read)) =
        [("s", .one "b"), ("s", .one "a")] ∧
      (program.warnings.filter fun warning => warning.reason.isDuplicate).length = 2 := by
  intro program
  have h := ofText_lastClauseCounts laterBlankText
  have hblank : program.table.blank = "b" := h.blank.trans (by decide +kernel)
  have haccepted : acceptedFrom none ((Text.lines laterBlankText.toList).zipIdx 1) =
      [⟨2, "'': \x7bwrite: x, R: t\x7d", "s", "", some "x", .right, "t"⟩,
        ⟨3, "[a, b]: \x7bL: s\x7d", "s", "a", none, .left, "s"⟩,
        ⟨3, "[a, b]: \x7bL: s\x7d", "s", "b", none, .left, "s"⟩,
        ⟨4, "a: \x7bwrite: '', N: u\x7d", "s", "a", some "", .stay, "u"⟩] := by
    decide +kernel
  rw [haccepted] at h
  have hkeys := h.keys
  have hlength := h.length
  rw [hblank] at hkeys
  rw [← List.length_map fun rule : Rule => (rule.source, rule.read), hkeys] at hlength
  refine ⟨hblank, ?_, ?_, ?_, hkeys, Nat.add_left_cancel hlength⟩
  · have hb := h.lookup ⟨3, "[a, b]: \x7bL: s\x7d", "s", "b", none, .left, "s"⟩
    rw [hblank] at hb
    exact hb ⟨[_, _], [_], rfl, by decide⟩
  · have ha := h.lookup ⟨4, "a: \x7bwrite: '', N: u\x7d", "s", "a", some "", .stay, "u"⟩
    rw [hblank] at ha
    exact ha ⟨[_, _, _], [], rfl, List.forall_mem_nil _⟩
  · rw [h.lookup_none, hblank]
    decide

end TapeMachine.Source
