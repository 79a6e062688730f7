import TapeMachine.Batch
import TapeMachine.Proofs.Pool.Writing

namespace TapeMachine

open Files DeskTask

namespace Batch

variable {files other : Tree} {budget : Option Int} {program text : String} {fault : Fault}
variable {programs more done : List String} {summaries first second : List Summary}

/-- What a text comes to as a program. -/
def summaryOf (budget : Option Int) (program text : String) : Except Fault Summary :=
  match budget with
  | some budget => .ok (.ofProgram program (.ofText text) budget)
  | none =>
    if (Program.ofText text).table.rules = [] then .ok (.ofProgram program (.ofText text) 0)
    else .error .noNumber

/-- Without the refusals of the file system, which give nothing. -/
def unlessRefused {α : Type} : Except Fault α → Except Fault (Option α)
  | .ok value => .ok (some value)
  | .error fault => if fault.isRefusal then .ok none else .error fault

/-- What a program in the files comes to; one that is refused has no summary. -/
def verdict (budget : Option Int) (files : Tree) (program : String) :
    Except Fault (Option Summary) :=
  unlessRefused
    (((files.readText (normal program)).mapError Fault.ofRead).bind (summaryOf budget program))

/-- The summaries of programs in a row, unless one of them ends the run. -/
def gather (budget : Option Int) (files : Tree) : List String → Except Fault (List Summary)
  | [] => .ok []
  | program :: programs =>
    (verdict budget files program).bind fun summary =>
      (gather budget files programs).map (summary.toList ++ ·)

theorem gather_append (budget : Option Int) (files : Tree) (programs more : List String) :
    gather budget files (programs ++ more) =
      (gather budget files programs).bind fun summaries =>
        (gather budget files more).map (summaries ++ ·) := by
  induction programs with
  | nil =>
    rw [List.nil_append]
    cases gather budget files more <;> rfl
  | cons program programs ih =>
    rw [List.cons_append, gather, gather, ih]
    cases verdict budget files program with
    | error fault => rfl
    | ok summary =>
      cases gather budget files programs with
      | error fault => rfl
      | ok summaries => cases gather budget files more <;> simp [Except.bind, Except.map]

theorem gathered_append (h : gather budget files (programs ++ more) = .ok summaries) :
    ∃ first second, gather budget files programs = .ok first ∧
      gather budget files more = .ok second ∧ summaries = first ++ second := by
  rw [gather_append] at h
  cases hfirst : gather budget files programs with
  | error fault => simp [hfirst, Except.bind] at h
  | ok first =>
    cases hsecond : gather budget files more with
    | error fault => simp [hfirst, hsecond, Except.bind, Except.map] at h
    | ok second =>
      simp only [hfirst, hsecond, Except.bind, Except.map, Except.ok.injEq] at h
      exact ⟨first, second, rfl, rfl, h.symm⟩

theorem gather_congr (h : ∀ program ∈ programs,
      verdict budget files program = verdict budget other program) :
    gather budget files programs = gather budget other programs := by
  induction programs with
  | nil => rfl
  | cons program programs ih =>
    rw [gather, gather, h program List.mem_cons_self,
      ih fun program hp => h program (List.mem_cons_of_mem _ hp)]

theorem program_of_summaryOf {summary : Summary} (h : summaryOf budget program text = .ok summary) :
    summary.program = program := by
  unfold summaryOf at h
  split at h
  next =>
    cases h
    rfl
  next =>
    split at h
    next =>
      cases h
      rfl
    next => simp at h

theorem program_of_verdict {summary : Summary}
    (h : verdict budget files program = .ok (some summary)) : summary.program = program := by
  unfold verdict at h
  cases hr : files.readText (normal program) with
  | error error =>
    rw [hr] at h
    simp only [mapError_error, Except.bind, unlessRefused] at h
    split at h <;> simp at h
  | ok text =>
    rw [hr] at h
    simp only [mapError_ok, Except.bind] at h
    cases hs : summaryOf budget program text with
    | error fault =>
      rw [hs, unlessRefused] at h
      split at h <;> simp at h
    | ok found =>
      rw [hs] at h
      cases h
      exact program_of_summaryOf hs

theorem simulateWithin_runOn (budget : Option Int) (program : String) (files : Tree) :
    (simulateWithin program budget).runOn files =
      (((files.readText (normal program)).mapError Fault.ofRead).bind (summaryOf budget program),
        files) := by
  have hload : (Program.load program).runOn files =
      (((files.readText (normal program)).mapError Fault.ofRead).map Program.ofText, files) := by
    rw [Program.load, FileTask.runOn_bind, FileTask.runOn_readText]
    cases files.readText (normal program) <;> rfl
  cases budget with
  | some budget =>
    rw [simulateWithin, simulate, FileTask.runOn_bind, hload]
    cases files.readText (normal program) <;> rfl
  | none =>
    rw [simulateWithin, FileTask.runOn_bind, hload]
    cases files.readText (normal program) with
    | error error => rfl
    | ok text =>
      simp only [mapError_ok, Except.map, Except.bind, summaryOf]
      split <;> rfl

/-- The state of a batch in which some summaries were made and some programs are completed. -/
def Progress.of (summaries : List Summary) (completed : List String) : Progress where
  summaries := summaries.toArray
  completed := .arr (completed.map .str)

theorem ends_say (text : String) (files : Tree) : (say text).Ends files (.ok ()) files :=
  ends_showLine _ files

/-- A program that is refused is passed over, and any other fault ends the batch. -/
theorem ends_tryProgram (budget : Option Int) (summaries : List Summary) (done : List String)
    (program : String) (files : Tree) :
    (tryProgram budget (.of summaries done) program).Ends files
      ((verdict budget files program).map fun summary =>
        .of (summaries ++ summary.toList) (done ++ summary.toList.map Summary.program)) files := by
  have hwork := (ends_onFiles (simulateWithin_runOn budget program files)).map some
  have hname : ∀ summary, verdict budget files program = .ok (some summary) →
      summary.program = program := fun _ => program_of_verdict
  unfold verdict at hname ⊢
  generalize ((files.readText (normal program)).mapError Fault.ofRead).bind
    (summaryOf budget program) = result at hwork hname
  cases result with
  | ok summary =>
    refine (Ends.tryCatch_ok hwork).bind ?_
    rw [Progress.of, withCompleted]
    refine (ends_attempt _ files).bind ?_
    have h : Progress.of (summaries ++ [summary]) (done ++ [summary.program]) =
        { summaries := summaries.toArray.push summary
          completed := .arr (done.map .str ++ [.str program]) } := by
      simp [Progress.of, hname summary rfl]
    exact h ▸ ends_pure _ files
  | error fault =>
    rw [unlessRefused]
    split
    next hr =>
      have hpassed : (do
          say s!"[WARNING] Failed to read {program}: {fault.message}"
          return none : DeskTask (Option Summary)).Ends files (.ok none) files :=
        (ends_say _ files).bind (ends_pure none files)
      refine (Ends.tryCatch_error hwork (by rw [if_pos hr]; exact hpassed)).bind ?_
      simpa [Except.map] using ends_pure (Progress.of summaries done) files
    next hr =>
      exact (Ends.tryCatch_error hwork (by rw [if_neg hr]; exact ends_throw fault files)).bind_error

theorem ends_programs (budget : Option Int) (summaries : List Summary)
    (done programs : List String) (files : Tree) :
    (programs.foldlM (tryProgram budget) (.of summaries done)).Ends files
      ((gather budget files programs).map fun more =>
        .of (summaries ++ more) (done ++ more.map Summary.program)) files := by
  induction programs generalizing summaries done with
  | nil => simpa [gather, Except.map] using ends_pure (Progress.of summaries done) files
  | cons program programs ih =>
    have hfirst := ends_tryProgram budget summaries done program files
    rw [List.foldlM_cons, gather]
    cases hv : verdict budget files program with
    | error fault =>
      rw [hv] at hfirst
      exact hfirst.bind_error
    | ok summary =>
      rw [hv] at hfirst
      have hmore : ((gather budget files programs).map (summary.toList ++ ·)).map (fun more =>
            Progress.of (summaries ++ more) (done ++ more.map Summary.program)) =
          (gather budget files programs).map fun more =>
            Progress.of (summaries ++ summary.toList ++ more)
              (done ++ summary.toList.map Summary.program ++ more.map Summary.program) := by
        cases gather budget files programs <;> simp [Except.map]
      rw [Except.bind, hmore]
      exact hfirst.bind (ih _ _)

end Batch

end TapeMachine
