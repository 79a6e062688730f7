import TapeMachine.Proofs.Batch.Outlets
import TapeMachine.Proofs.Json.Printed

namespace TapeMachine

open Text

/-- Whether the counts of a summary have no more digits than can be read back. -/
def Summary.IsShort (summary : Summary) : Prop :=
  ∀ count ∈ [summary.rules, summary.warnings, summary.steps],
    (Nat.toDigits 10 count).length ≤ maxDigits

namespace Batch

variable {summaries : List Summary}

/-- What an object says under the name of a program. -/
def programIn : Json → Option Json
  | .obj fields => Dictionary.get? fields "program"
  | _ => none

/-- The programs that the lines of a text name, each line read for itself. -/
def programsOn (text : String) : Except Json.ReadError (List (Option Json)) :=
  ((splitOn '\n' text.toList).filter (· ≠ [])).mapM fun line =>
    (Json.read (String.ofList line)).map programIn

theorem legible_record {summary : Summary} (h : summary.IsShort) :
    Json.Legible Json.maxDepth (.obj summary.record) := by
  have hcount : ∀ count ∈ [summary.rules, summary.warnings, summary.steps], ∀ depth,
      Json.Legible depth (.ofNat count) := fun count hc _ => .int (h count hc)
  simp only [List.mem_cons, List.not_mem_nil, or_false, forall_eq_or_imp, forall_eq] at hcount
  obtain ⟨hrules, hwarnings, hsteps⟩ := hcount
  have herror : ∀ depth, Json.Legible depth (.ofOption summary.error?) := by
    intro depth
    cases summary.error? with
    | none => exact .null
    | some error => exact .str error
  have hfirst : ∀ depth, ∀ field ∈ summary.firstFields, Json.Legible depth field.2 := by
    intro depth
    simp only [Summary.firstFields, List.mem_cons, List.not_mem_nil, or_false, forall_eq_or_imp,
      forall_eq]
    exact ⟨.str _, hrules _, hwarnings _, hsteps _, .bool _, herror _⟩
  have hfinal : ∀ depth, ∀ field ∈ summary.finalFields, Json.Legible depth field.2 := by
    intro depth
    unfold Summary.finalFields
    split
    · simp
    · simp only [List.mem_cons, List.not_mem_nil, or_false, forall_eq_or_imp, forall_eq]
      exact ⟨.str _, .str _⟩
  refine .obj ?_ ?_ fun field hf => (List.mem_append.mp hf).elim (hfirst _ field) (hfinal _ field)
  · unfold Summary.record Summary.firstFields Summary.finalFields
    split <;> simp
  · unfold Summary.record Summary.firstFields Summary.finalFields
    split
    · exact (by decide : (["program", "rules", "warnings", "steps_taken", "halted", "error"].map
        Json.Key.Identity.text).Nodup)
    · exact (by decide : (["program", "rules", "warnings", "steps_taken", "halted", "error",
        "final_state", "tape"].map Json.Key.Identity.text).Nodup)

theorem programsOn_linesOf (h : ∀ summary ∈ summaries, summary.IsShort) :
    programsOn (linesOf summaries) =
      .ok (summaries.map fun summary => some (.str summary.program)) := by
  induction summaries with
  | nil => rfl
  | cons summary summaries ih =>
    have hl := legible_record (h summary List.mem_cons_self)
    have hline : '\n' ∉ (Json.obj summary.record).compact.toList :=
      fun hm => absurd (Json.isVisible_compact _ _ hm) (by decide)
    have hne : (Json.obj summary.record).compact.toList ≠ [] := by
      obtain ⟨c, tail, ht, -⟩ := (Json.reads_compact hl).starts
      simp [ht]
    have htext : (linesOf (summary :: summaries)).toList =
        (Json.obj summary.record).compact.toList ++ '\n' :: (linesOf summaries).toList := by
      simp [linesOf, Record.linesOf, Record.line]
    have ih := ih fun other ho => h other (List.mem_cons_of_mem _ ho)
    rw [programsOn, splitOn_eq] at ih ⊢
    rw [htext, List.splitOn_append_cons_self_of_not_mem hline,
      List.filter_cons_of_pos (by simpa using hne), List.mapM_cons, ih, String.ofList_toList,
      Json.read_compact hl]
    rfl

/-- A text of results: each summary is on a line of its own, and the lines name the programs. -/
structure Reports (summaries : List Summary) (text : String) : Prop where
  lines : Record.OnLines (summaries.map Summary.record) text
  programs : (∀ summary ∈ summaries, summary.IsShort) →
    programsOn text = .ok (summaries.map fun summary => some (.str summary.program))

theorem reports_linesOf (summaries : List Summary) : Reports summaries (linesOf summaries) :=
  ⟨Record.onLines_linesOf _, programsOn_linesOf⟩

end Batch

end TapeMachine
