import TapeMachine.Proofs.Batch.Outlets
import TapeMachine.Proofs.Json.Printed
import TapeMachine.Proofs.Text.Lines

namespace TapeMachine

open Files

namespace Batch

variable {files other : Tree} {batch first : Batch} {place : Place} {completed : List String}

theorem isEnding_results : IsEnding ".jsonl" :=
  ⟨by decide, by decide, by decide⟩

theorem isEnding_checkpoint : IsEnding "_checkpoint.json" :=
  ⟨by decide, by decide, by decide⟩

theorem resultsFile_eq (batch : Batch) :
    batch.resultsFile = normal (below batch.folder batch.output ++ ".jsonl") := by
  rw [resultsFile, below_append isEnding_results.slash]

theorem checkpointFile_eq (batch : Batch) :
    batch.checkpointFile = normal (below batch.folder batch.output ++ "_checkpoint.json") := by
  rw [checkpointFile, below_append isEnding_checkpoint.slash]

/-- Where results can be written, so can a checkpoint that could be looked up, to another file. -/
theorem exists_checkpoint_place {results : Place} (hr : files.Leads batch.resultsFile results)
    {found : Bool} (hc : files.lookedUp batch.checkpointFile = .ok found) :
    ∃ checkpoint, files.resolve batch.checkpointFile = .ok (checkpoint, false) ∧
      results ≠ checkpoint := by
  have hr := hr.1
  rw [resultsFile_eq] at hr
  rw [checkpointFile_eq] at hc ⊢
  rcases Tree.resolve_sibling isEnding_results isEnding_checkpoint hr with he | ⟨home, rfl, hs⟩
  · simp [Tree.lookedUp, he] at hc
  · refine ⟨_, hs, fun h => ?_⟩
    have h := (List.append_inj' h rfl).2
    simp at h

theorem legible_checkpointOf (completed : List String) :
    Json.Legible Json.maxDepth (checkpointOf completed) := by
  refine .obj (by simp) (by simp) fun field hf => ?_
  rw [List.mem_singleton.mp hf]
  refine .arr fun item hi => ?_
  obtain ⟨program, _, rfl⟩ := List.mem_map.mp hi
  exact .str program

theorem read_checkpointOf (completed : List String) :
    Json.read (checkpointOf completed).indented = .ok (checkpointOf completed) :=
  Json.read_indented (legible_checkpointOf completed)

theorem normal_checkpointFile (batch : Batch) :
    normal batch.checkpointFile = batch.checkpointFile :=
  normal_normal _

/-- What the programs completed are taken to be. -/
def checkpointIn (batch : Batch) (files : Tree) : Except Fault Json :=
  match files.lookedUp batch.checkpointFile with
  | .error error => .error (.file error)
  | .ok false => .ok (.arr [])
  | .ok true =>
    (((files.readText batch.checkpointFile).mapError Fault.ofRead).bind fun text =>
      (Json.read text).mapError Fault.json).bind completedIn

theorem readCheckpoint_runOn (batch : Batch) (files : Tree) :
    batch.readCheckpoint.runOn files = (batch.checkpointIn files, files) := by
  unfold readCheckpoint checkpointIn
  rw [FileTask.runOn_bind, FileTask.runOn_lookUp, normal_checkpointFile]
  cases files.lookedUp batch.checkpointFile with
  | error error => rfl
  | ok found =>
    cases found with
    | false => rfl
    | true =>
      have hread := FileTask.runOn_readJson batch.checkpointFile files
      generalize ((files.readText batch.checkpointFile).mapError Fault.ofRead).bind (fun text =>
        (Json.read text).mapError Fault.json) = result at hread ⊢
      simp only [mapError_ok, if_true]
      rw [FileTask.runOn_bind, hread]
      cases result with
      | error fault => rfl
      | ok value => exact FileTask.runOn_attempt _ files

theorem readCheckpoint_fst (batch : Batch) (files : Tree) :
    (batch.readCheckpoint.runOn files).1 = batch.checkpointIn files := by
  rw [readCheckpoint_runOn]

theorem completedIn_checkpointOf (completed : List String) :
    completedIn (checkpointOf completed) = .ok (.arr (completed.map .str)) := rfl

theorem checkpointIn_of_written
    (h : files.content? batch.checkpointFile = some (checkpointOf completed).indented.toUTF8) :
    files.lookedUp batch.checkpointFile = .ok true ∧
      batch.checkpointIn files = .ok (.arr (completed.map .str)) := by
  obtain ⟨place, hl, hn⟩ := Tree.content?_eq_some_iff.mp h
  have hlook : files.lookedUp batch.checkpointFile = .ok true := by
    simp [Tree.lookedUp, Tree.pathExists, Tree.found?, hl.1, hn]
  have hcr := Json.return_notMem_indented (checkpointOf completed)
  refine ⟨hlook, ?_⟩
  unfold checkpointIn
  rw [hlook]
  simp only
  rw [hl.readText hn hcr, mapError_ok, Except.bind, read_checkpointOf]
  exact completedIn_checkpointOf completed

theorem checkpointIn_of_sameDirectories (hs : files.SameDirectories other)
    (hl : files.Leads batch.checkpointFile place) (hn : other.node? place = files.node? place) :
    batch.checkpointIn other = batch.checkpointIn files := by
  have hlook : other.lookedUp batch.checkpointFile = files.lookedUp batch.checkpointFile := by
    simp only [Tree.lookedUp, Tree.pathExists, Tree.found?, hl.1, hs.keeps.resolve hl.1, hn]
  have hread : other.readText batch.checkpointFile = files.readText batch.checkpointFile := by
    simp only [Tree.readText, Tree.readBytes, hl.1, hs.keeps.resolve hl.1, hn]
  unfold checkpointIn
  rw [hlook, hread]

theorem checkpointIn_of_leads (hl : files.Leads batch.checkpointFile place)
    (hn : files.node? place = none) : batch.checkpointIn files = .ok (.arr []) := by
  have hlook : files.lookedUp batch.checkpointFile = .ok false := by
    simp [Tree.lookedUp, Tree.pathExists, Tree.found?, hl.1, hn]
  unfold checkpointIn
  rw [hlook]

/-- What is there and is no file cannot be read. -/
theorem readText_of_lookedUp {path : String} (h : files.content? path = none)
    (hl : files.lookedUp path = .ok true) : ∃ error, files.readText path = .error error := by
  have hp : files.pathExists path = true := by
    rw [Tree.lookedUp] at hl
    split at hl
    next => simp at hl
    next => exact Except.ok.inj hl
  have hd : files.hasDirectory path := by
    rw [Tree.pathExists] at hp
    rw [Tree.content?] at h
    cases hf : files.found? path with
    | none => simp [hf] at hp
    | some node =>
      cases node with
      | file content => simp [hf] at h
      | directory => simp [Tree.hasDirectory, hf]
  obtain ⟨place, insisting, hr, hd⟩ := Tree.hasDirectory_iff.mp hd
  exact ⟨.refused ⟨.isDirectory, path⟩, by simp [Tree.readText, Tree.readBytes, hr, hd]⟩

/-- Where no checkpoint is, nothing is completed, unless something else is in its place. -/
theorem checkpointIn_of_none (h : files.content? batch.checkpointFile = none) {value : Json}
    (hv : batch.checkpointIn files = .ok value) :
    files.lookedUp batch.checkpointFile = .ok false ∧ value = .arr [] := by
  unfold checkpointIn at hv
  cases hl : files.lookedUp batch.checkpointFile with
  | error error => simp [hl] at hv
  | ok found =>
    cases found with
    | false => exact ⟨rfl, by simpa [hl] using hv.symm⟩
    | true =>
      have hread := readText_of_lookedUp h hl
      obtain ⟨error, hread⟩ := hread
      simp [hl, hread, mapError_error, Except.bind] at hv

theorem isCompleted_arr (completed : List String) (program : String) :
    isCompleted (.arr (completed.map .str)) program = .ok (decide (program ∈ completed)) := by
  rw [isCompleted, Except.ok.injEq, List.any_map, Bool.eq_iff_iff, List.any_eq_true,
    decide_eq_true_eq]
  simp

theorem filterAuxM_pure {α : Type} (keeps : α → Except Fault Bool) (p : α → Bool)
    (h : ∀ a, keeps a = .ok (p a)) (items done : List α) :
    List.filterAuxM keeps items done = .ok ((items.filter p).reverse ++ done) := by
  induction items generalizing done with
  | nil => rfl
  | cons a items ih =>
    rw [List.filterAuxM, h a]
    change List.filterAuxM keeps items (bif p a then a :: done else done) = _
    rw [ih]
    cases hp : p a <;> simp [hp]

theorem pendingOf_arr (completed programs : List String) :
    pendingOf (.arr (completed.map .str)) programs =
      .ok (programs.filter fun program => program ∉ completed) := by
  have h : ∀ program, (do return !(← isCompleted (.arr (completed.map .str)) program) :
      Except Fault Bool) = .ok (decide (program ∉ completed)) := by
    intro program
    rw [isCompleted_arr]
    simp [bind, Except.bind, pure, Except.pure]
  rw [pendingOf, List.filterM, filterAuxM_pure _ _ h]
  simp [bind, Except.bind, pure, Except.pure]

/-- Whether two batches have the same results and the same checkpoint. -/
structure SharesFiles (batch first : Batch) : Prop where
  results : batch.results = first.results
  output : batch.output = first.output
  stem : stem batch.pool = stem first.pool

theorem SharesFiles.folder (h : batch.SharesFiles first) : batch.folder = first.folder := by
  rw [Batch.folder, Batch.folder, h.results, h.stem]

theorem SharesFiles.resultsFile (h : batch.SharesFiles first) :
    batch.resultsFile = first.resultsFile := by
  rw [Batch.resultsFile, Batch.resultsFile, h.folder, h.output]

theorem SharesFiles.checkpointFile (h : batch.SharesFiles first) :
    batch.checkpointFile = first.checkpointFile := by
  rw [Batch.checkpointFile, Batch.checkpointFile, h.folder, h.output]

end Batch

end TapeMachine
