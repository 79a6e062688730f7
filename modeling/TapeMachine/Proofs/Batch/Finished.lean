import TapeMachine.Proofs.Batch.ResultLines
import TapeMachine.Proofs.Batch.Runs

namespace TapeMachine

open Files DeskTask

namespace Batch

variable {files start after later whole : Tree} {batch longer : Batch} {journal another : Journal}
variable {outlets others : Outlets} {summaries first second : List Summary}
variable {programs pending done head tail : List String} {program : String} {n : Int}

/-- A program has a text, or the file system refuses it. -/
def Held (files : Tree) (program : String) : Prop :=
  ∃ text?, unlessRefused ((files.readText (normal program)).mapError Fault.ofRead) = .ok text?

instance (files : Tree) (program : String) : Decidable (Held files program) :=
  match h : unlessRefused ((files.readText (normal program)).mapError Fault.ofRead) with
  | .ok text? => .isTrue ⟨text?, h⟩
  | .error _ => .isFalse fun ⟨_, h'⟩ => by simp [h] at h'

def summary? (n : Int) (files : Tree) (program : String) : Option Summary :=
  match files.readText (normal program) with
  | .ok text => some (.ofProgram program (.ofText text) n)
  | .error _ => none

/-- The summaries of the programs that have texts, in order. -/
def summariesIn (n : Int) (files : Tree) (programs : List String) : List Summary :=
  programs.filterMap (summary? n files)

theorem verdict_of_held (h : Held files program) :
    verdict (some n) files program = .ok (summary? n files program) := by
  obtain ⟨text?, h⟩ := h
  unfold verdict summary?
  cases hr : files.readText (normal program) with
  | ok text => rfl
  | error error =>
    rw [hr] at h
    simp only [mapError_error, unlessRefused, Except.bind] at h ⊢
    split at h
    next hf => rw [if_pos hf]
    next => simp at h

theorem gather_of_held (h : ∀ program ∈ programs, Held files program) :
    gather (some n) files programs = .ok (summariesIn n files programs) := by
  induction programs with
  | nil => rfl
  | cons program programs ih =>
    rw [gather, verdict_of_held (h program List.mem_cons_self),
      ih fun program hp => h program (List.mem_cons_of_mem _ hp), summariesIn, summariesIn,
      List.filterMap_cons]
    cases summary? n files program <;> rfl

theorem program_of_summary? {summary : Summary} (h : summary? n files program = some summary) :
    summary.program = program := by
  unfold summary? at h
  split at h
  next =>
    cases h
    rfl
  next => simp at h

theorem map_program_summariesIn (n : Int) (files : Tree) (programs : List String) :
    (summariesIn n files programs).map Summary.program =
      programs.filter fun program => (summary? n files program).isSome := by
  induction programs with
  | nil => rfl
  | cons program programs ih =>
    rw [summariesIn] at ih ⊢
    cases hs : summary? n files program with
    | none => simp [hs, ih]
    | some summary => simp [hs, ih, program_of_summary? hs]

/-- The files once the pending programs were run. -/
def Outlets.finished (outlets : Outlets) (files : Tree) (pending : List String)
    (summaries : List Summary) (completed : List String) : Tree :=
  if pending = [] then files.edit (adding outlets.results [])
  else files.editAll (outlets.edits summaries completed)

def Lists (batch : Batch) (files : Tree) (programs : List String) : Prop :=
  ∃ text, files.readText batch.pool = .ok text ∧ Pool.ofText text = programs

theorem chunks_nil (size : Nat) : chunks size [] = [] := by
  simp [chunks]

theorem ne_nil_of_mem_chunks (size : Nat) (programs : List String) :
    ∀ chunk ∈ chunks size programs, chunk ≠ [] := by
  fun_induction chunks size programs with
  | case1 => simp
  | case2 programs some ih =>
    rw [not_or] at some
    intro chunk hc
    rcases List.mem_cons.mp hc with rfl | hc
    · simpa [List.take_eq_nil_iff] using some
    · exact ih chunk hc

theorem flatten_eq_nil_iff_of_ne_nil {batches : List (List String)}
    (h : ∀ programs ∈ batches, programs ≠ []) : batches.flatten = [] ↔ batches = [] := by
  cases batches with
  | nil => simp
  | cons programs batches => simp [h programs List.mem_cons_self]

/-- To add nothing to the results before they are added to changes nothing. -/
theorem editAll_touched (hf : files.Free outlets.results) (summaries : List Summary)
    (completed : List String) :
    (files.edit (adding outlets.results [])).editAll (outlets.edits summaries completed) =
      files.editAll (outlets.edits summaries completed) := by
  have hmerge : (files.edit (adding outlets.results [])).edit (adding outlets.results summaries) =
      files.edit (adding outlets.results summaries) := by
    have h := Tree.edit_edit hf (adding outlets.results []).change
      (adding outlets.results summaries).change
    rw [adding_comp, List.nil_append] at h
    exact h
  rw [Outlets.edits, List.cons_append, Tree.editAll_cons, Tree.editAll_cons, hmerge]

theorem stored_touched (hf : files.Free outlets.results) {batches : List (List String)}
    (h : ∀ programs ∈ batches, programs ≠ []) (summaries : List Summary)
    (completed : List String) :
    stored outlets (files.edit (adding outlets.results [])) batches summaries completed =
      outlets.finished files batches.flatten summaries completed := by
  simp only [stored, Outlets.finished, flatten_eq_nil_iff_of_ne_nil h, editAll_touched hf]

/-- The results and the checkpoint tell of the summaries. -/
structure Stores (batch : Batch) (outlets : Outlets) (after : Tree) (summaries : List Summary) :
    Prop where
  results : after.node? outlets.results = some (.file (linesOf summaries).toUTF8)
  reports : Reports summaries (linesOf summaries)
  completed : (batch.readCheckpoint.runOn after).1 =
    .ok (.arr ((summaries.map Summary.program).map .str))

/-- So do the logs, which a run that was begun with others adds to: each has got those summaries
that it is for. -/
structure Tells (batch : Batch) (outlets : Outlets) (before after : Tree)
    (summaries : List Summary) : Prop extends batch.Stores outlets after summaries where
  logs : ∀ log ∈ outlets.logs, ∃ text, Reports (summaries.filter log.2) text ∧
    after.bytesAt log.1 = before.bytesAt log.1 ++ text.toUTF8

theorem Outlets.changesOnly_finished (hf : ∀ place ∈ outlets.places, files.Free place)
    (pending : List String) (summaries : List Summary) (completed : List String) :
    outlets.ChangesOnly files (outlets.finished files pending summaries completed) := by
  unfold Outlets.finished
  split
  · exact Outlets.changesOnly_touched hf
  · exact Outlets.changesOnly_edits hf _ _

theorem node?_results_finished (ho : batch.Opens journal files outlets)
    (hd : outlets.places.Nodup) (hempty : pending = [] → summaries = []) (completed : List String) :
    (outlets.finished files pending summaries completed).node? outlets.results =
      some (.file (files.bytesAt outlets.results ++ (linesOf summaries).toUTF8)) := by
  unfold Outlets.finished
  split
  next hp =>
    rw [hempty hp]
    exact Tree.node?_edit_self (e := adding outlets.results []) ho.results.2
  next => exact Outlets.node?_results (Outlets.apart_of_nodup hd) ho.results.2 _ _

theorem checkpointIn_finished (ho : batch.Opens journal files outlets)
    (hd : outlets.places.Nodup) (hcheck : batch.checkpointIn files = .ok (.arr (done.map .str)))
    (hempty : pending = [] → summaries = []) :
    batch.checkpointIn (outlets.finished files pending summaries
        (done ++ summaries.map Summary.program)) =
      .ok (.arr ((done ++ summaries.map Summary.program).map .str)) := by
  unfold Outlets.finished
  split
  next hp =>
    have hsame := (Outlets.changesOnly_touched ho.free).directories
    have hne := (Outlets.apart_of_nodup hd).checkpoint.symm
    rw [checkpointIn_of_sameDirectories hsame ho.checkpoint (Tree.node?_edit_of_ne hne), hcheck,
      hempty hp]
    simp
  next =>
    have hsame := (Outlets.changesOnly_edits ho.free summaries
      (done ++ summaries.map Summary.program)).directories
    exact (checkpointIn_of_written (Tree.content?_eq_some_iff.mpr
      ⟨_, ho.checkpoint.of_sameDirectories hsame, Outlets.node?_checkpoint ho.free _ _⟩)).2

theorem bytesAt_log_finished (ho : batch.Opens journal files outlets) (hd : outlets.places.Nodup)
    (hempty : pending = [] → summaries = []) {log : Place × (Summary → Bool)}
    (hl : log ∈ outlets.logs) (completed : List String) :
    (outlets.finished files pending summaries completed).bytesAt log.1 =
      files.bytesAt log.1 ++ (linesOf (summaries.filter log.2)).toUTF8 := by
  unfold Outlets.finished
  split
  next hp =>
    have hne : log.1 ≠ outlets.results := fun h =>
      (Outlets.apart_of_nodup hd).logs (h ▸ List.mem_map_of_mem hl)
    rw [Tree.bytesAt_congr (Tree.node?_edit_of_ne hne), hempty hp]
    simp
  next => exact Outlets.bytesAt_log hd ho.free hl _ _

/-- What a run leaves tells of what was stored before and of what it came to itself. -/
theorem stores_finished (ho : batch.Opens journal files outlets)
    (hd : outlets.places.Nodup) (hempty : pending = [] → second = [])
    (hr : files.bytesAt outlets.results = (linesOf first).toUTF8)
    (hcheck : batch.checkpointIn files = .ok (.arr ((first.map Summary.program).map .str))) :
    batch.Stores outlets (outlets.finished files pending second
      (first.map Summary.program ++ second.map Summary.program)) (first ++ second) where
  results := by rw [node?_results_finished ho hd hempty, hr, toUTF8_linesOf_append]
  reports := reports_linesOf _
  completed := by
    rw [readCheckpoint_fst, List.map_append]
    exact checkpointIn_finished ho hd hcheck hempty

theorem KeepsPrograms.held (h : KeepsPrograms programs files later) (hp : program ∈ programs)
    (hh : Held files program) : Held later program := by
  obtain ⟨text?, ht⟩ := hh
  have hsame := unlessRefused_readText h.directories (h.programs program hp) fun text => .ok text
  have hok : ∀ result : Except Fault String, result.bind (fun text => .ok text) = result := by
    rintro (_ | _) <;> rfl
  rw [hok, hok] at hsame
  exact ⟨text?, hsame.trans ht⟩

theorem KeepsPrograms.summary? (h : KeepsPrograms programs files later) (hp : program ∈ programs)
    (hh : Held files program) (n : Int) : summary? n later program = summary? n files program := by
  have hv := h.verdict hp (some n)
  rw [verdict_of_held (h.held hp hh), verdict_of_held hh] at hv
  exact Except.ok.inj hv

theorem KeepsPrograms.summariesIn (h : KeepsPrograms programs files later)
    (hh : ∀ program ∈ programs, Held files program) (n : Int)
    (hs : ∀ program ∈ pending, program ∈ programs) :
    summariesIn n later pending = summariesIn n files pending :=
  List.filterMap_congr fun program hp => h.summary? (hs program hp) (hh program (hs program hp)) n

theorem Outlets.ChangesOnly.lists (h : outlets.ChangesOnly files after)
    (hl : batch.Lists files programs) {place : Place} {insisting : Bool}
    (hp : files.resolve batch.pool = .ok (place, insisting)) (hn : place ∉ outlets.places) :
    batch.Lists after programs := by
  obtain ⟨text, hr, ht⟩ := hl
  refine ⟨text, ?_, ht⟩
  rw [← hr]
  simp only [Tree.readText, Tree.readBytes, hp, h.directories.keeps.resolve hp, h.others place hn]

/-- A run of batches of any size stores what the pending programs come to. -/
theorem ends_run_finished (hfolder : files.hasDirectory batch.folder)
    (hlists : batch.Lists files programs) (ho : batch.Opens journal files outlets)
    (hd : outlets.places.Nodup) (hs : Spares files outlets.places programs)
    (hcheck : batch.checkpointIn files = .ok (.arr (done.map .str))) (hsize : 0 < batch.size)
    (hpend : programs.filter (fun program => program ∉ done) = pending)
    (hg : gather batch.budget files pending = .ok summaries) :
    (batch.run journal).Ends files (.ok ())
      (outlets.finished files pending summaries (done ++ summaries.map Summary.program)) := by
  obtain ⟨text, hpool, rfl⟩ := hlists
  have hpos : 0 < batch.size.toNat := by omega
  have hspares : Spares files outlets.places pending := by
    rw [← hpend]
    exact hs.mono fun program hp => (List.mem_filter.mp hp).1
  have hchanges := Outlets.changesOnly_touched ho.free
  rw [← (hchanges.keepsPrograms hspares).gather (fun _ => id), ← flatten_chunks hpos pending] at hg
  rw [← flatten_chunks hpos pending] at hspares
  have hloop := ends_batches hd (ho.of_sameDirectories hchanges.directories)
    (hspares.of_sameDirectories hchanges.directories) hg done
  rw [stored_touched ho.results.2 (ne_nil_of_mem_chunks _ _), flatten_chunks hpos] at hloop
  rw [← hpend] at hloop ⊢
  exact ends_run hfolder hpool hcheck ho.results (by omega) hloop

end Batch

end TapeMachine
