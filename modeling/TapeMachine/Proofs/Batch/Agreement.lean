import TapeMachine.Proofs.Batch.Checkpoints
import TapeMachine.Proofs.Batch.ResultLines
import TapeMachine.Proofs.Files.Folders

namespace TapeMachine

open Files DeskTask

namespace Batch

variable {files after : Tree} {batch first : Batch} {journal : Journal} {outlets : Outlets}
variable {summaries : List Summary} {completed programs : List String} {fault : Fault}

/-- The results and the checkpoint of a batch tell of the same runs. -/
structure Recorded (batch : Batch) (files : Tree) (summaries : List Summary) : Prop where
  results : (files.content? batch.resultsFile).getD .empty = (linesOf summaries).toUTF8
  checkpoint : files.content? batch.checkpointFile =
      some (checkpointOf (summaries.map Summary.program)).indented.toUTF8 ∨
    summaries = [] ∧ files.content? batch.checkpointFile = none

/-- The same at the places of the two files, once the results are there. -/
structure Kept (outlets : Outlets) (files : Tree) (summaries : List Summary) : Prop where
  results : files.node? outlets.results = some (.file (linesOf summaries).toUTF8)
  checkpoint : files.node? outlets.checkpoint =
      some (.file (checkpointOf (summaries.map Summary.program)).indented.toUTF8) ∨
    summaries = [] ∧ files.node? outlets.checkpoint = none

theorem Kept.recorded (hk : Kept outlets files summaries)
    (hr : files.Leads batch.resultsFile outlets.results)
    (hc : files.Leads batch.checkpointFile outlets.checkpoint) :
    batch.Recorded files summaries where
  results := by rw [hr.getD_content?, Tree.bytesAt_of_file hk.results]
  checkpoint := hk.checkpoint.imp (fun h => Tree.content?_eq_some_iff.mpr ⟨_, hc, h⟩)
    fun h => ⟨h.1, hc.content?_eq_none_iff.mpr h.2⟩

theorem Recorded.touched (h : batch.Recorded files summaries)
    (hr : files.Leads batch.resultsFile outlets.results)
    (hc : files.Leads batch.checkpointFile outlets.checkpoint)
    (hne : outlets.results ≠ outlets.checkpoint) :
    Kept outlets (files.edit (adding outlets.results [])) summaries where
  results := by
    have hn := Tree.node?_edit_self (e := adding outlets.results []) hr.2
    rwa [adding_nil, adding, ← hr.getD_content?, h.results] at hn
  checkpoint := by
    rw [Tree.node?_edit_of_ne (e := adding outlets.results []) hne.symm]
    refine h.checkpoint.imp (fun h => ?_) fun h => ⟨h.1, hc.content?_eq_none_iff.mp h.2⟩
    obtain ⟨place, hl, hn⟩ := Tree.content?_eq_some_iff.mp h
    have : (place, false) = (outlets.checkpoint, false) := Except.ok.inj (hl.1.symm.trans hc.1)
    rw [← (Prod.mk.inj this).1, hn]

theorem Kept.chunk (hk : Kept outlets files summaries) (ha : outlets.Apart)
    (hf : ∀ place ∈ outlets.places, files.Free place) (more : List Summary) :
    Kept outlets
      (files.editAll (outlets.edits more ((summaries ++ more).map Summary.program)))
      (summaries ++ more) where
  results := by
    rw [Outlets.node?_results ha (hf _ (by simp [Outlets.places])),
      Tree.bytesAt_of_file hk.results, toUTF8_linesOf_append]
  checkpoint := .inl (Outlets.node?_checkpoint hf _ _)

/-- Whatever ends a run of batches, it ends between two of them. -/
theorem exists_ends_chunks (hk : Kept outlets files summaries) (ha : outlets.Apart)
    (ho : batch.Opens journal files outlets) (batches : List (List String)) :
    ∃ outcome after more,
      (batches.foldlM (batch.runChunk journal)
        (.arr ((summaries.map Summary.program).map .str))).Ends files outcome after ∧
      Kept outlets after more ∧ files.SameDirectories after := by
  -- A batch in which a program ends the run stores nothing, so that `Kept` holds after it as before.
  induction batches generalizing files summaries with
  | nil => exact ⟨_, files, summaries, ends_pure _ files, hk, .refl files⟩
  | cons programs batches ih =>
    have hchunk := ends_runChunk ho (summaries.map Summary.program) programs
    cases hg : gather batch.budget files programs with
    | error fault =>
      rw [hg] at hchunk
      refine ⟨.error fault, files, summaries, ?_, hk, .refl files⟩
      rw [List.foldlM_cons]
      exact hchunk.bind_error
    | ok more =>
      rw [hg] at hchunk
      simp only [← List.map_append] at hchunk
      have hs := Tree.sameDirectories_editAll (Outlets.free_edits ho.free more
        ((summaries ++ more).map Summary.program))
      obtain ⟨outcome, after, all, he, hka, hsa⟩ :=
        ih (hk.chunk ha ho.free more) (ho.of_sameDirectories hs)
      refine ⟨outcome, after, all, ?_, hka, hs.trans hsa⟩
      rw [List.foldlM_cons]
      exact hchunk.bind he

/-- A checkpoint that can be read says what the results say. -/
theorem Recorded.checkpointIn_eq (h : batch.Recorded files summaries) {value : Json}
    (hv : batch.checkpointIn files = .ok value) :
    value = .arr ((summaries.map Summary.program).map .str) := by
  rcases h.checkpoint with hc | ⟨rfl, hc⟩
  · exact Except.ok.inj (hv.symm.trans (checkpointIn_of_written hc).2)
  · exact (checkpointIn_of_none hc hv).2

theorem Recorded.leads_checkpoint (h : batch.Recorded files summaries) {value : Json}
    (hv : batch.checkpointIn files = .ok value) {results : Place}
    (hr : files.Leads batch.resultsFile results) :
    ∃ checkpoint, files.Leads batch.checkpointFile checkpoint ∧ results ≠ checkpoint := by
  rcases h.checkpoint with hc | ⟨-, hc⟩
  · obtain ⟨checkpoint, hcr, hne⟩ := exists_checkpoint_place hr (checkpointIn_of_written hc).1
    obtain ⟨place, hcl, hn⟩ := Tree.content?_eq_some_iff.mp hc
    have hp : (place, false) = (checkpoint, false) := Except.ok.inj (hcl.1.symm.trans hcr)
    exact ⟨checkpoint, (Prod.mk.inj hp).1 ▸ hcl, hne⟩
  · obtain ⟨hl, -⟩ := checkpointIn_of_none hc hv
    obtain ⟨checkpoint, hcr, hne⟩ := exists_checkpoint_place hr hl
    refine ⟨checkpoint, ⟨hcr, fun hd => ?_⟩, hne⟩
    simp [Tree.lookedUp, Tree.pathExists, Tree.found?, hcr, hd] at hl

/-- The files once the folder of the results is made, as far as it can be. -/
def opened (batch : Batch) (files : Tree) : Tree :=
  (files.makeWholeWay batch.folder).1

/-- The logs of a journal can be written, and none of them is the file of the results. -/
def LogsApart (batch : Batch) (journal : Journal) (files : Tree) : Prop :=
  ∃ logs, journal.TakesAt files logs ∧
    ∀ place ∈ logs.map Prod.fst, ¬ files.Leads batch.resultsFile place

/-- Where the results can be written, there are outlets for all that a batch stores. -/
theorem Recorded.exists_outlets (h : batch.Recorded files summaries) {value : Json}
    (hv : batch.checkpointIn files = .ok value) {results : Place}
    (hr : files.Leads batch.resultsFile results) (hl : batch.LogsApart journal files) :
    ∃ outlets, batch.Opens journal files outlets ∧ outlets.Apart := by
  obtain ⟨checkpoint, hc, hne⟩ := h.leads_checkpoint hv hr
  obtain ⟨logs, hlogs, hapart⟩ := hl
  exact ⟨⟨results, checkpoint, logs⟩, ⟨hr, hc, hlogs⟩, hne, fun hm => hapart _ hm hr⟩

/-- What a run leaves: the folder of its results, and in it the two files as they should be. -/
def Settled (batch : Batch) (files : Tree) : Prop :=
  batch.opened files = files ∧ ∃ summaries, batch.Recorded files summaries

theorem Kept.settled (hk : Kept outlets after summaries) (ho : batch.Opens journal files outlets)
    (hd : files.hasDirectory batch.folder) (hs : files.SameDirectories after) :
    batch.Settled after := by
  have ho := ho.of_sameDirectories hs
  refine ⟨?_, summaries, hk.recorded ho.results ho.checkpoint⟩
  rw [opened, Tree.makeWholeWay_of_hasDirectory (Tree.hasDirectory_of_sameDirectories hs hd)]

theorem Recorded.reaches_batches (h : batch.Recorded files summaries)
    (ho : batch.Opens journal files outlets) (ha : outlets.Apart)
    (hd : files.hasDirectory batch.folder) (batches : List (List String)) :
    (batches.foldlM (batch.runChunk journal)
        (.arr ((summaries.map Summary.program).map .str))).Reaches
      (files.edit (adding outlets.results [])) batch.Settled := by
  have hs := Tree.sameDirectories_edit (e := adding outlets.results []) ho.results.2
  have hkept := h.touched ho.results ho.checkpoint ha.checkpoint
  obtain ⟨outcome, after, more, he, hk, hsa⟩ :=
    exists_ends_chunks hkept ha (ho.of_sameDirectories hs) batches
  exact ⟨outcome, after, he, hk.settled ho hd (hs.trans hsa)⟩

/-- Whatever ends a run, what it leaves is settled. -/
theorem reaches_settled (h : batch.Recorded (batch.opened files) summaries)
    (hl : batch.LogsApart journal (batch.opened files)) :
    (batch.run journal).Reaches files batch.Settled := by
  rcases hm : files.makeWholeWay batch.folder with ⟨start, refusal⟩
  have ho : batch.opened files = start := by rw [opened, hm]
  rw [ho] at h hl
  have hstart : batch.Settled start :=
    ⟨by rw [opened, Tree.makeWholeWay_again hm], summaries, h⟩
  have hmake := FileTask.runOn_makeWholeWay batch.folder files
  rw [hm] at hmake
  unfold run
  cases refusal with
  | some error => exact .bind_error (ends_onFiles hmake) hstart
  | none =>
    have hd := Tree.hasDirectory_of_makeWholeWay hm
    -- Nothing is changed before the file of results is opened, so a refusal leaves `start`.
    refine .bind_ok (ends_onFiles hmake) ?_
    refine .bind (ends_onFiles (Pool.runOn_load batch.pool start)) hstart fun programs _ => ?_
    refine .bind (ends_onFiles (readCheckpoint_runOn batch start)) hstart fun value hv => ?_
    obtain rfl := h.checkpointIn_eq hv
    rw [pendingOf_arr]
    refine .bind_ok (ends_attempt _ _) (.bind_ok (ends_say _ _) ?_)
    cases ht : start.target batch.resultsFile with
    | error error =>
      exact .bind_error (ends_onFiles (FileTask.runOn_append_of_error ht _)) hstart
    | ok found =>
      obtain ⟨outlets, hopens, hapart⟩ := h.exists_outlets hv (Tree.leads_of_target ht) hl
      refine .bind_ok (ends_onFiles (FileTask.runOn_append_of_leads hopens.results _)) ?_
      split
      · have hkept := h.touched hopens.results hopens.checkpoint hapart.checkpoint
        exact .bind_error (ends_throw _ _)
          (hkept.settled hopens hd (Tree.sameDirectories_edit hopens.results.2))
      · obtain ⟨outcome, after, hloop, hs⟩ := h.reaches_batches hopens hapart hd _
        exact .bind hloop hs fun _ _ => .of_ends (ends_say _ _) hs

/-- The files that there can be when at first there were neither results nor a checkpoint: after
runs that share these, each however it ended, and after changes that left the two alone. -/
inductive History (first : Batch) : Tree → Prop
  | start {files : Tree} (results : (first.opened files).content? first.resultsFile = none)
      (checkpoint : (first.opened files).content? first.checkpointFile = none) :
      History first files
  | change {files other : Tree} (h : History first files)
      (results : (first.opened other).content? first.resultsFile =
        (first.opened files).content? first.resultsFile)
      (checkpoint : (first.opened other).content? first.checkpointFile =
        (first.opened files).content? first.checkpointFile) : History first other
  | run {batch : Batch} {journal : Journal} {desk : Desk} (h : History first desk.files)
      (shares : batch.SharesFiles first)
      (logs : batch.LogsApart journal (batch.opened desk.files)) :
      History first ((batch.run journal).runAt desk).2.files

theorem SharesFiles.recorded_iff (h : batch.SharesFiles first) :
    batch.Recorded files summaries ↔ first.Recorded files summaries := by
  constructor
  · rintro ⟨hr, hc⟩
    rw [h.resultsFile] at hr
    rw [h.checkpointFile] at hc
    exact ⟨hr, hc⟩
  · rintro ⟨hr, hc⟩
    rw [← h.resultsFile] at hr
    rw [← h.checkpointFile] at hc
    exact ⟨hr, hc⟩

theorem SharesFiles.opened (h : batch.SharesFiles first) (files : Tree) :
    batch.opened files = first.opened files := by
  rw [Batch.opened, Batch.opened, h.folder]

theorem recorded_run {desk : Desk} (h : first.Recorded (first.opened desk.files) summaries)
    (shares : batch.SharesFiles first) (logs : batch.LogsApart journal (batch.opened desk.files)) :
    first.opened ((batch.run journal).runAt desk).2.files =
        ((batch.run journal).runAt desk).2.files ∧
      ∃ more, first.Recorded ((batch.run journal).runAt desk).2.files more := by
  rw [← shares.opened, ← shares.recorded_iff] at h
  obtain ⟨outcome, after, he, ho, more, hr⟩ := reaches_settled h logs
  rw [(he desk rfl).2]
  exact ⟨shares.opened after ▸ ho, more, shares.recorded_iff.mp hr⟩

theorem History.recorded (h : first.History files) :
    ∃ summaries, first.Recorded (first.opened files) summaries := by
  induction h with
  | start results checkpoint => exact ⟨[], by rw [results]; rfl, .inr ⟨rfl, checkpoint⟩⟩
  | change _ results checkpoint ih =>
    obtain ⟨summaries, hr, hc⟩ := ih
    exact ⟨summaries, by rw [results, hr], by rw [checkpoint]; exact hc⟩
  | run _ shares logs ih =>
    obtain ⟨summaries, hr⟩ := ih
    obtain ⟨ho, more, hr⟩ := recorded_run hr shares logs
    exact ⟨more, ho.symm ▸ hr⟩

/-- The results and the checkpoint name the same programs in the same order. A results file that is
not there has no lines; where no checkpoint can be read, there are none either. -/
structure Agrees (batch : Batch) (files : Tree) (completed : List String) : Prop where
  results : ∃ summaries : List Summary, summaries.map Summary.program = completed ∧
    (files.content? batch.resultsFile).getD .empty = (linesOf summaries).toUTF8 ∧
    ((∀ summary ∈ summaries, summary.IsShort) →
      programsOn (linesOf summaries) = .ok (completed.map fun program => some (.str program)))
  checkpoint : (batch.readCheckpoint.runOn files).1 = .ok (.arr (completed.map .str)) ∨
    completed = [] ∧ ∃ fault, (batch.readCheckpoint.runOn files).1 = .error fault

theorem Recorded.agrees (h : batch.Recorded files summaries) :
    batch.Agrees files (summaries.map Summary.program) where
  results := ⟨summaries, rfl, h.results, fun hs => by
    rw [programsOn_linesOf hs, List.map_map]
    rfl⟩
  checkpoint := by
    rw [readCheckpoint_fst]
    rcases h.checkpoint with hc | ⟨rfl, hc⟩
    · exact .inl (checkpointIn_of_written hc).2
    · cases hv : batch.checkpointIn files with
      | error fault => exact .inr ⟨rfl, fault, rfl⟩
      | ok value =>
        left
        rw [(checkpointIn_of_none hc hv).2]
        rfl

/-- After every run, what the results tell of is what the checkpoint calls completed. -/
theorem History.agrees_run {desk : Desk} (h : first.History desk.files)
    (shares : batch.SharesFiles first) (logs : batch.LogsApart journal (batch.opened desk.files)) :
    ∃ completed, first.Agrees ((batch.run journal).runAt desk).2.files completed := by
  obtain ⟨summaries, hr⟩ := h.recorded
  obtain ⟨-, more, hr⟩ := recorded_run hr shares logs
  exact ⟨_, hr.agrees⟩

/-- A pool of a program without rules and of a file that is no text, to be run one by one. -/
def brokenPool : Batch := { pool := "pool", size := 1 }

def brokenPoolDesk : Desk where
  files := ⟨[(["pool"], .file "a.tm\nb.tm\n".toUTF8), (["a.tm"], .file .empty),
    (["b.tm"], .file ⟨#[255]⟩), (["logs"], .directory)]⟩
  day := "2024-05-01"

def brokenPoolJournal : Journal := { day := "2024-05-01" }

def brokenPoolOpened : Tree :=
  ⟨brokenPoolDesk.files.nodes ++ [(["results"], .directory), (["results", "pool"], .directory)]⟩

theorem folder_brokenPool : brokenPool.folder = "results/pool" := by
  decide +kernel

theorem resultsFile_brokenPool : brokenPool.resultsFile = "results/pool/results.jsonl" := by
  rw [resultsFile, folder_brokenPool]
  decide +kernel

theorem checkpointFile_brokenPool :
    brokenPool.checkpointFile = "results/pool/results_checkpoint.json" := by
  rw [checkpointFile, folder_brokenPool]
  decide +kernel

theorem opened_brokenPool : brokenPool.opened brokenPoolDesk.files = brokenPoolOpened := by
  rw [opened, folder_brokenPool]
  decide +kernel

theorem logsApart_brokenPool : brokenPool.LogsApart brokenPoolJournal brokenPoolOpened := by
  have hh : brokenPoolOpened.Leads "logs/halting_2024-05-01.jsonl"
      ["logs", "halting_2024-05-01.jsonl"] := by decide +kernel
  have he : brokenPoolOpened.Leads "logs/errors_2024-05-01.jsonl"
      ["logs", "errors_2024-05-01.jsonl"] := by decide +kernel
  have hr : brokenPoolOpened.resolve "results/pool/results.jsonl" =
      .ok (["results", "pool", "results.jsonl"], false) := by decide +kernel
  refine ⟨_, .onDisk rfl rfl hh rfl he, fun place hp => ?_⟩
  rw [resultsFile_brokenPool, Tree.Leads, hr]
  simp only [List.map_cons, List.map_nil, List.mem_cons, List.not_mem_nil, or_false] at hp
  rcases hp with rfl | rfl <;> simp

theorem history_brokenPool : brokenPool.History brokenPoolDesk.files := by
  have hr : brokenPoolOpened.found? "results/pool/results.jsonl" = none := by decide +kernel
  have hc : brokenPoolOpened.found? "results/pool/results_checkpoint.json" = none := by
    decide +kernel
  refine .start ?_ ?_
  · rw [opened_brokenPool, resultsFile_brokenPool, Tree.content?, hr]
  · rw [opened_brokenPool, checkpointFile_brokenPool, Tree.content?, hc]

theorem agrees_run_brokenPool :
    ∃ completed, brokenPool.Agrees
      ((Batch.run { brokenPool with size := 7 } { day := "2024-05-02", onDisk := false }).runAt
        ((brokenPool.run brokenPoolJournal).runAt brokenPoolDesk).2).2.files completed :=
  History.agrees_run
    (.run history_brokenPool ⟨rfl, rfl, rfl⟩ (opened_brokenPool ▸ logsApart_brokenPool))
    ⟨rfl, rfl, rfl⟩ ⟨[], .nowhere rfl, by simp⟩

end Batch

end TapeMachine
