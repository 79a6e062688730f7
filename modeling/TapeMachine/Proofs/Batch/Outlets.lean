import TapeMachine.Proofs.Batch.Programs
import TapeMachine.Proofs.Files.Walks
import TapeMachine.Proofs.Journal.Storing
import TapeMachine.Proofs.Records

namespace TapeMachine

open Files DeskTask

/-- The files beside the main log that take summaries: where they are and which they take. -/
inductive Journal.TakesAt (journal : Journal) (files : Tree) :
    List (Place × (Summary → Bool)) → Prop
  | nowhere (h : journal.onDisk = false) : TakesAt journal files []
  | onDisk {halting errors : String} {haltingPlace errorsPlace : Place} (h : journal.onDisk = true)
      (hh : (journal.beside "halting").spelled = .ok halting)
      (hhl : files.Leads halting haltingPlace)
      (he : (journal.beside "errors").spelled = .ok errors)
      (hel : files.Leads errors errorsPlace) :
      TakesAt journal files
        [(haltingPlace, Summary.halted), (errorsPlace, fun summary => summary.error?.isSome)]

namespace Journal

variable {journal : Journal} {files other : Tree} {logs : List (Place × (Summary → Bool))}

theorem TakesAt.of_sameDirectories (h : journal.TakesAt files logs)
    (hs : files.SameDirectories other) : journal.TakesAt other logs := by
  cases h with
  | nowhere h => exact .nowhere h
  | onDisk h hh hhl he hel =>
    exact .onDisk h hh (hhl.of_sameDirectories hs) he (hel.of_sameDirectories hs)

theorem TakesAt.free (h : journal.TakesAt files logs) :
    ∀ place ∈ logs.map Prod.fst, files.Free place := by
  cases h with
  | nowhere => simp
  | onDisk _ _ hh _ he => simp [hh.2, he.2]

end Journal

namespace Batch

variable {files other : Tree} {batch : Batch} {journal : Journal} {place : Place}
variable {summaries : List Summary} {completed : List String}

def linesOf (summaries : List Summary) : String :=
  Record.linesOf (summaries.map Summary.record)

@[simp] theorem linesOf_nil : linesOf [] = "" := rfl

theorem linesOf_append (first second : List Summary) :
    linesOf (first ++ second) = linesOf first ++ linesOf second := by
  rw [linesOf, List.map_append, Record.linesOf_append]
  rfl

theorem toUTF8_linesOf_append (first second : List Summary) :
    (linesOf (first ++ second)).toUTF8 = (linesOf first).toUTF8 ++ (linesOf second).toUTF8 := by
  rw [linesOf_append, String.toUTF8, String.toByteArray_append]
  rfl

def checkpointOf (completed : List String) : Json :=
  .obj [("completed", .arr (completed.map .str))]

/-- A list of names is written whole. -/
theorem writeCheckpoint_eq (batch : Batch) (completed : List String) :
    batch.writeCheckpoint (.arr (completed.map .str)) =
      FileTask.write batch.checkpointFile (checkpointOf completed).indented := by
  have hitems : ∀ item ∈ completed.map Json.str, item.IsShort := by
    intro item hi
    obtain ⟨program, _, rfl⟩ := List.mem_map.mp hi
    exact .str program
  exact FileTask.writeJson_of_isShort
    (Json.isShort_obj_iff.mpr (List.forall_mem_singleton.mpr ⟨rfl, .arr hitems⟩)) _

def adding (place : Place) (summaries : List Summary) : Tree.Edit :=
  ⟨place, (· ++ (linesOf summaries).toUTF8)⟩

theorem adding_nil (place : Place) (content : ByteArray) :
    (adding place []).change content = content := by
  simp [adding]

theorem adding_comp (place : Place) (first second : List Summary) :
    (adding place second).change ∘ (adding place first).change =
      (adding place (first ++ second)).change := by
  funext content
  simp only [adding, Function.comp_apply, toUTF8_linesOf_append, ByteArray.append_assoc]

/-- The places that a batch writes to: those of its results and its checkpoint, and those of the
logs with the summaries that each is for. -/
structure Outlets where
  results : Place
  checkpoint : Place
  logs : List (Place × (Summary → Bool))

namespace Outlets

def places (outlets : Outlets) : List Place :=
  outlets.results :: outlets.logs.map Prod.fst ++ [outlets.checkpoint]

/-- What storing summaries does to the files. -/
def edits (outlets : Outlets) (summaries : List Summary) (completed : List String) :
    List Tree.Edit :=
  adding outlets.results summaries ::
    outlets.logs.map (fun log => adding log.1 (summaries.filter log.2)) ++
      [⟨outlets.checkpoint, fun _ => (checkpointOf completed).indented.toUTF8⟩]

theorem map_place_edits (outlets : Outlets) (summaries : List Summary) (completed : List String) :
    (outlets.edits summaries completed).map Tree.Edit.place = outlets.places := by
  simp [edits, places, adding, Function.comp_def]

/-- The results are a file of their own. -/
structure Apart (outlets : Outlets) : Prop where
  checkpoint : outlets.results ≠ outlets.checkpoint
  logs : outlets.results ∉ outlets.logs.map Prod.fst

variable {outlets : Outlets}

theorem apart_of_nodup (h : outlets.places.Nodup) : outlets.Apart := by
  rw [places, List.cons_append, List.nodup_cons, List.mem_append, not_or, List.mem_singleton] at h
  exact ⟨h.1.2, h.1.1⟩

theorem node?_results (h : outlets.Apart) (hf : files.Free outlets.results)
    (summaries : List Summary) (completed : List String) :
    (files.editAll (outlets.edits summaries completed)).node? outlets.results =
      some (.file (files.bytesAt outlets.results ++ (linesOf summaries).toUTF8)) := by
  rw [edits, List.cons_append, Tree.editAll_cons, Tree.node?_editAll_of_notMem]
  · exact Tree.node?_edit_self hf
  rw [List.map_append, List.map_map, List.mem_append, not_or]
  exact ⟨h.logs, by simpa using h.checkpoint⟩

theorem free_edits (hf : ∀ place ∈ outlets.places, files.Free place) (summaries : List Summary)
    (completed : List String) : ∀ e ∈ outlets.edits summaries completed, files.Free e.place := by
  intro e he
  refine hf e.place ?_
  rw [← outlets.map_place_edits summaries completed]
  exact List.mem_map_of_mem he

theorem node?_checkpoint (hf : ∀ place ∈ outlets.places, files.Free place)
    (summaries : List Summary) (completed : List String) :
    (files.editAll (outlets.edits summaries completed)).node? outlets.checkpoint =
      some (.file (checkpointOf completed).indented.toUTF8) := by
  have hfree := free_edits hf summaries completed
  rw [edits] at hfree ⊢
  have hs := Tree.sameDirectories_editAll fun e he => hfree e (List.mem_append_left _ he)
  rw [Tree.editAll_append, Tree.editAll_cons, Tree.editAll_nil]
  exact Tree.node?_edit_self ((hs _).mp (hfree _ (by simp)))

theorem node?_of_notMem {place : Place} (h : place ∉ outlets.places) (summaries : List Summary)
    (completed : List String) :
    (files.editAll (outlets.edits summaries completed)).node? place = files.node? place :=
  Tree.node?_editAll_of_notMem (by rwa [outlets.map_place_edits])

theorem bytesAt_log (hd : outlets.places.Nodup) (hf : ∀ place ∈ outlets.places, files.Free place)
    {log : Place × (Summary → Bool)} (hl : log ∈ outlets.logs) (summaries : List Summary)
    (completed : List String) :
    (files.editAll (outlets.edits summaries completed)).bytesAt log.1 =
      files.bytesAt log.1 ++ (linesOf (summaries.filter log.2)).toUTF8 := by
  have hm : adding log.1 (summaries.filter log.2) ∈ outlets.edits summaries completed :=
    List.mem_append_left _ (List.mem_cons_of_mem _ (List.mem_map_of_mem hl))
  exact Tree.bytesAt_of_file (Tree.node?_editAll_of_mem (by rwa [outlets.map_place_edits])
    (free_edits hf summaries completed) hm)

end Outlets

/-- A batch can write to its outlets in the files. -/
structure Opens (batch : Batch) (journal : Journal) (files : Tree) (outlets : Outlets) : Prop where
  results : files.Leads batch.resultsFile outlets.results
  checkpoint : files.Leads batch.checkpointFile outlets.checkpoint
  logs : journal.TakesAt files outlets.logs

theorem Opens.of_sameDirectories {outlets : Outlets} (h : batch.Opens journal files outlets)
    (hs : files.SameDirectories other) : batch.Opens journal other outlets :=
  ⟨h.results.of_sameDirectories hs, h.checkpoint.of_sameDirectories hs,
    h.logs.of_sameDirectories hs⟩

theorem Opens.free {outlets : Outlets} (h : batch.Opens journal files outlets) :
    ∀ place ∈ outlets.places, files.Free place := by
  intro place hp
  simp only [Outlets.places, List.mem_append, List.mem_cons, List.not_mem_nil,
    or_false] at hp
  rcases hp with (rfl | hp) | rfl
  · exact h.results.2
  · exact h.logs.free place hp
  · exact h.checkpoint.2

/-- What is stored of a batch is stored in all of its outlets. -/
theorem conclude_runOn {outlets : Outlets} (h : batch.Opens journal files outlets)
    (summaries : List Summary) (completed : List String) :
    (batch.conclude journal (.of summaries completed)).runOn files =
      (.ok (), files.editAll (outlets.edits summaries completed)) := by
  obtain ⟨results, checkpoint, logs⟩ := outlets
  obtain ⟨hr, hc, hl⟩ := h
  have hs := Tree.sameDirectories_edit (e := ⟨results, (· ++ (linesOf summaries).toUTF8)⟩) hr.2
  have hc := hc.of_sameDirectories hs
  have hl := hl.of_sameDirectories hs
  have hlines : ∀ chosen : List Summary,
      String.join ((chosen.map Summary.record).map Record.line) = linesOf chosen := fun _ => rfl
  unfold conclude
  rw [FileTask.runOn_bind_ok (FileTask.runOn_append_of_leads hr _)]
  simp only [Progress.of, hlines]
  cases hl with
  | nowhere h =>
    rw [Journal.logHalting, FileTask.runOn_bind_ok (Journal.store_runOn_nowhere h _ _),
      Journal.logErrors, FileTask.runOn_bind_ok (Journal.store_runOn_nowhere h _ _),
      writeCheckpoint_eq]
    exact FileTask.runOn_write_of_leads hc _
  | @onDisk _ _ halting errors h hh hhl he hel =>
    have hs := Tree.sameDirectories_edit
      (e := ⟨halting, (· ++ (linesOf (summaries.filter Summary.halted)).toUTF8)⟩) hhl.2
    have hel := hel.of_sameDirectories hs
    have hs' := Tree.sameDirectories_edit
      (e := ⟨errors, (· ++ (linesOf (summaries.filter fun s => s.error?.isSome)).toUTF8)⟩) hel.2
    rw [Journal.logHalting, FileTask.runOn_bind_ok (Journal.store_runOn_onDisk h hh hhl _), hlines,
      Journal.logErrors, FileTask.runOn_bind_ok (Journal.store_runOn_onDisk h he hel _), hlines,
      writeCheckpoint_eq]
    exact FileTask.runOn_write_of_leads ((hc.of_sameDirectories hs).of_sameDirectories hs') _

/-- One batch: its summaries are stored, unless a program ends the run before. -/
theorem ends_runChunk {outlets : Outlets} (h : batch.Opens journal files outlets)
    (done programs : List String) :
    match gather batch.budget files programs with
    | .ok summaries =>
      (batch.runChunk journal (.arr (done.map .str)) programs).Ends files
        (.ok (.arr ((done ++ summaries.map Summary.program).map .str)))
        (files.editAll (outlets.edits summaries (done ++ summaries.map Summary.program)))
    | .error fault =>
      (batch.runChunk journal (.arr (done.map .str)) programs).Ends files (.error fault) files := by
  have hp := ends_programs batch.budget [] done programs files
  unfold runChunk
  cases hg : gather batch.budget files programs with
  | error fault =>
    rw [hg] at hp
    exact hp.bind_error
  | ok summaries =>
    rw [hg] at hp
    refine hp.bind ((ends_onFiles (conclude_runOn h _ _)).bind ((ends_say _ _).bind ?_))
    exact ends_pure _ _

end Batch

end TapeMachine
