import Mathlib.Order.Monotone.Basic
import TapeMachine.Proofs.Source.Overrides
import TapeMachine.Proofs.Source.Spacing

namespace TapeMachine

open Source Text

def Warning.renumbered (follow : Nat → Nat) (warning : Warning) : Warning :=
  { warning with line := follow warning.line }

/-- A program whose lines have got other numbers. -/
def Program.renumbered (follow : Nat → Nat) (program : Program) : Program :=
  { program with warnings := program.warnings.map (Warning.renumbered follow) }

theorem Program.renumbered_id (program : Program) : program.renumbered id = program := by
  have h : Warning.renumbered id = id := rfl
  simp [renumbered, h]

theorem Program.renumbered_renumbered (move follow : Nat → Nat) (program : Program) :
    (program.renumbered follow).renumbered move = program.renumbered (move ∘ follow) := by
  have h : Warning.renumbered move ∘ Warning.renumbered follow =
      Warning.renumbered (move ∘ follow) := rfl
  simp [renumbered, h]

namespace Source

variable {follow move : Nat → Nat} {line first second : List Char}
variable {old new : List (List Char)}

def Accepted.renumbered (follow : Nat → Nat) (accepted : Accepted) : Accepted :=
  { accepted with line := follow accepted.line }

def Draft.renumbered (follow : Nat → Nat) (draft : Draft) : Draft :=
  { draft with
    accepted := draft.accepted.map (Accepted.renumbered follow)
    warnings := draft.warnings.map (Warning.renumbered follow) }

theorem warn_renumbered (follow : Nat → Nat) (draft : Draft) (number : Nat) (text : List Char)
    (reason : Reason) :
    (draft.renumbered follow).warn (follow number) text reason =
      (draft.warn number text reason).renumbered follow := by
  simp [Draft.warn, Draft.renumbered, Warning.renumbered]

theorem accept_renumbered (follow : Nat → Nat) (draft : Draft) (number : Nat) (text : List Char)
    (state : String) (rule : RuleLine) :
    (draft.renumbered follow).accept (follow number) text state rule =
      (draft.accept number text state rule).renumbered follow := by
  simp only [Draft.accept, Draft.renumbered, Draft.mk.injEq, true_and, and_true]
  apply Array.toList_inj.mp
  simp [Accepted.renumbered]

/-- No line looks at the numbers of the lines before it. -/
theorem addLine_renumbered (follow : Nat → Nat) (draft : Draft) (line : List Char) (number : Nat) :
    (draft.renumbered follow).addLine (line, follow number) =
      (draft.addLine (line, number)).renumbered follow := by
  have hc : (draft.renumbered follow).current = draft.current := rfl
  unfold Draft.addLine
  cases Draft.content line with
  | nil => rfl
  | cons c text =>
    simp only [Draft.add, hc]
    cases Line.read (c :: text) with
    | faulty reason => exact warn_renumbered follow draft number (c :: text) reason
    | rule body =>
      cases draft.current with
      | none => exact warn_renumbered follow draft number (c :: text) .ruleOutsideState
      | some state =>
        cases body with
        | error reason => exact warn_renumbered follow draft number (c :: text) reason
        | ok rule => exact accept_renumbered follow draft number (c :: text) state rule
    | _ => rfl

theorem foldl_renumbered (follow : Nat → Nat) (numbered : List (List Char × Nat)) (draft : Draft) :
    (numbered.map (Prod.map id follow)).foldl Draft.addLine (draft.renumbered follow) =
      (numbered.foldl Draft.addLine draft).renumbered follow := by
  induction numbered generalizing draft with
  | nil => rfl
  | cons first numbered ih =>
    have hf : (draft.renumbered follow).addLine (Prod.map id follow first) =
        (draft.addLine first).renumbered follow :=
      addLine_renumbered follow draft first.1 first.2
    rw [List.map_cons, List.foldl_cons, List.foldl_cons, hf, ih]

theorem collect_renumbered (follow : Nat → Nat) (blank : String) (accepted : List Accepted) :
    collect blank (accepted.map (Accepted.renumbered follow)) =
      ((collect blank accepted).1, (collect blank accepted).2.map (Warning.renumbered follow)) := by
  induction accepted using List.reverseRecOn with
  | nil => rfl
  | append_singleton accepted next ih =>
    have hr : (next.renumbered follow).rule blank = next.rule blank := rfl
    have ho : (next.renumbered follow).override blank =
        (next.override blank).renumbered follow := rfl
    rw [List.map_append, List.map_singleton, collect_concat, collect_concat, ih, hr, ho]
    split
    next => rw [List.map_append, List.map_singleton]
    next => rfl

/-- Where the lines keep their order, so do the warnings. -/
theorem program_renumbered (hf : StrictMono follow) (draft : Draft) :
    (draft.renumbered follow).program = draft.program.renumbered follow := by
  have hsort (warnings : List Warning) :
      (warnings.map (Warning.renumbered follow)).mergeSort
          (fun a b => decide (a.line ≤ b.line)) =
        (warnings.mergeSort fun a b => decide (a.line ≤ b.line)).map
          (Warning.renumbered follow) := by
    refine (List.map_mergeSort fun a _ b _ => ?_).symm
    simp [Warning.renumbered, hf.le_iff_le]
  simp only [Draft.program, Draft.renumbered, Program.renumbered, Array.toList_map,
    collect_renumbered, ← List.map_append, hsort]

/-- The number of a line after another has come in at a place. -/
def makeRoom (place number : Nat) : Nat :=
  if number ≤ place then number else number + 1

theorem makeRoom_strictMono (place : Nat) : StrictMono (makeRoom place) := by
  intro number other hlt
  unfold makeRoom
  split <;> split <;> omega

theorem zipIdx_makeRoom (before after : List (List Char)) :
    ((before ++ after).zipIdx 1).map (Prod.map id (makeRoom before.length)) =
      before.zipIdx 1 ++ after.zipIdx (before.length + 2) := by
  have hb : (before.zipIdx 1).map (Prod.map id (makeRoom before.length)) = before.zipIdx 1 := by
    rw [List.map_congr_left (g := id) fun numbered hm => ?_, List.map_id]
    have hl := (List.mem_zipIdx hm).2.1
    simp [Prod.map, makeRoom, show numbered.2 ≤ before.length by omega]
  have ha : (after.zipIdx (before.length + 1)).map (Prod.map id (makeRoom before.length)) =
      after.zipIdx (before.length + 2) := by
    rw [List.zipIdx_succ (i := before.length + 1)]
    refine List.map_congr_left fun numbered hm => ?_
    have hl := (List.mem_zipIdx hm).1
    simp [Prod.map, makeRoom, show ¬numbered.2 ≤ before.length by omega]
  rw [List.zipIdx_append, List.map_append, hb, Nat.add_comm 1, ha]

theorem addLine_congr (h : Draft.content first = Draft.content second) (draft : Draft)
    (number : Nat) : draft.addLine (first, number) = draft.addLine (second, number) := by
  simp only [Draft.addLine, h]

theorem ofLines_insert (h : Idle line) (before after : List (List Char)) :
    Draft.ofLines (before ++ line :: after) =
      (Draft.ofLines (before ++ after)).renumbered (makeRoom before.length) := by
  have hid : ∀ draft : Draft, draft.addLine (line, 1 + before.length) = draft := by
    intro draft
    simp only [Draft.addLine, content_idle h]
  have he : Draft.renumbered (makeRoom before.length) {} = {} := by simp [Draft.renumbered]
  have hr := foldl_renumbered (makeRoom before.length) ((before ++ after).zipIdx 1) {}
  rw [zipIdx_makeRoom, List.foldl_append, he] at hr
  rw [Draft.ofLines, List.zipIdx_append, List.zipIdx_cons, List.foldl_append, List.foldl_cons, hid,
    Draft.ofLines, ← hr, Nat.add_comm 1]

theorem ofLines_retouch (h : Retouched first second) (before after : List (List Char)) :
    Draft.ofLines (before ++ second :: after) = Draft.ofLines (before ++ first :: after) := by
  simp only [Draft.ofLines, List.zipIdx_append, List.zipIdx_cons, List.foldl_append,
    List.foldl_cons, addLine_congr (content_retouched h)]

/-- A change that leaves what the lines say, with the new numbers of the lines there were: a line
that says nothing comes in, or one line is retouched. -/
inductive Touch : List (List Char) → List (List Char) → (Nat → Nat) → Prop
  | insert {line : List Char} (idle : Idle line) (before after : List (List Char)) :
      Touch (before ++ after) (before ++ line :: after) (makeRoom before.length)
  | retouch {first second : List Char} (retouched : Retouched first second)
      (before after : List (List Char)) :
      Touch (before ++ first :: after) (before ++ second :: after) id

/-- Any number of such changes, one after the other. -/
inductive Touched : List (List Char) → List (List Char) → (Nat → Nat) → Prop
  | refl (lines : List (List Char)) : Touched lines lines id
  | step {old middle new : List (List Char)} {follow move : Nat → Nat}
      (touched : Touched old middle follow) (touch : Touch middle new move) :
      Touched old new (move ∘ follow)

theorem ofLines_touch (h : Touch old new move) :
    Program.ofLines new = (Program.ofLines old).renumbered move := by
  cases h with
  | insert idle before after =>
    rw [Program.ofLines, ofLines_insert idle, program_renumbered (makeRoom_strictMono _)]
    rfl
  | retouch retouched before after =>
    rw [Program.ofLines, ofLines_retouch retouched, Program.renumbered_id]
    rfl

theorem ofLines_touched (h : Touched old new follow) :
    Program.ofLines new = (Program.ofLines old).renumbered follow := by
  induction h with
  | refl => exact (Program.renumbered_id _).symm
  | step _ touch ih => rw [ofLines_touch touch, ih, Program.renumbered_renumbered]

/-- Comments, empty lines and indentation do not matter: the program is the same, and its warnings
are on the same lines, wherever these have gone. -/
theorem ofText_touched {text touched : String} (ht : HasLines text old) (hn : HasLines touched new)
    (h : Touched old new follow) :
    Program.ofText touched = (Program.ofText text).renumbered follow := by
  rw [ofText_of_hasLines ht, ofText_of_hasLines hn]
  exact ofLines_touched h

def plainText : String :=
  "s:\na: \x7bR: s\x7d\nstray\n"

def remarkedText : String :=
  "# one rule\ns:\n  a: \x7bR: s\x7d # don't\n\t\nstray"

/-- Two lines come in, and the rule gets an indent and a comment with a quote that stays open. -/
theorem ofText_touched_remarkedText :
    let rule := "a: \x7bR: s\x7d".toList
    let remarked := ("  ".toList ++ rule) ++ (" ".toList ++ '#' :: " don't".toList)
    let old := ["s:".toList, rule, "stray".toList]
    let new := ["# one rule".toList, "s:".toList, remarked, "\t".toList, "stray".toList]
    ∃ follow, HasLines plainText old ∧ HasLines remarkedText new ∧ Touched old new follow ∧
      [1, 2, 3].map follow = [2, 3, 5] ∧
      Program.ofText remarkedText = (Program.ofText plainText).renumbered follow := by
  intro rule remarked old new
  have hplain : HasLines plainText old := .inl (by decide +kernel)
  have hremarked : HasLines remarkedText new := .inl (by decide +kernel)
  have hindent : Retouched ([] ++ rule) ("  ".toList ++ rule) :=
    .lead (by simp) (List.all_eq_true.mp (by decide +kernel)) rule
  have hcomment : Retouched ("  ".toList ++ rule) remarked :=
    .comment (.inl (by decide +kernel)) (by decide +kernel)
      (List.all_eq_true.mp (by decide +kernel)) " don't".toList
  have hidle : Idle "# one rule".toList ∧ Idle "\t".toList := by decide +kernel
  have htouched := (((Touched.refl old).step (.insert hidle.1 [] old)).step
    (.retouch hindent ["# one rule".toList, "s:".toList] ["stray".toList])).step
    (.retouch hcomment ["# one rule".toList, "s:".toList] ["stray".toList])
  have hall : Touched old new _ := htouched.step
    (.insert hidle.2 ["# one rule".toList, "s:".toList, remarked] ["stray".toList])
  exact ⟨_, hplain, hremarked, hall, by decide, ofText_touched hplain hremarked hall⟩

end Source

end TapeMachine
