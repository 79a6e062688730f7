import TapeMachine.Proofs.Batch.Checkpoints
import TapeMachine.Proofs.Files.Folders

namespace TapeMachine

open Files DeskTask

namespace Batch

variable {files start after other : Tree} {batch : Batch} {journal : Journal} {outlets : Outlets}
variable {summaries first second : List Summary} {completed programs done : List String}
variable {program : String} {budget : Option Int} {fault : Fault}

/-- What becomes of a program's text is the same where it keeps its file and the way to it. -/
theorem unlessRefused_readText {α : Type} (h : files.SameDirectories other)
    (hn : ∀ place insisting, files.resolve (normal program) = .ok (place, insisting) →
      other.node? place = files.node? place) (f : String → Except Fault α) :
    unlessRefused (((other.readText (normal program)).mapError Fault.ofRead).bind f) =
      unlessRefused (((files.readText (normal program)).mapError Fault.ofRead).bind f) := by
  rcases Tree.readText_of_sameDirectories h hn with hr | ⟨error, error', hr, hr', hp, hp'⟩
  · rw [hr]
  · rw [hr, hr']
    simp [mapError_error, Except.bind, unlessRefused, Fault.ofRead, Fault.isRefusal, hp, hp']

/-- A change of files that leaves programs alone. -/
structure KeepsPrograms (programs : List String) (files other : Tree) : Prop where
  directories : files.SameDirectories other
  programs : ∀ program ∈ programs, ∀ place insisting,
    files.resolve (normal program) = .ok (place, insisting) →
      other.node? place = files.node? place

theorem KeepsPrograms.trans (h : KeepsPrograms programs start files)
    (h' : KeepsPrograms programs files other) : KeepsPrograms programs start other where
  directories := h.directories.trans h'.directories
  programs := fun program hp place insisting hr => by
    rw [h'.programs program hp place insisting (h.directories.keeps.resolve hr),
      h.programs program hp place insisting hr]

theorem KeepsPrograms.verdict (h : KeepsPrograms programs files other) (hp : program ∈ programs)
    (budget : Option Int) : verdict budget other program = verdict budget files program :=
  unlessRefused_readText h.directories (h.programs program hp) (summaryOf budget program)

theorem KeepsPrograms.gather {fewer : List String} (h : KeepsPrograms programs files other)
    (hs : ∀ program ∈ fewer, program ∈ programs) (budget : Option Int) :
    gather budget other fewer = gather budget files fewer :=
  gather_congr fun program hp => h.verdict (hs program hp) budget

/-- None of the programs lies at one of the places. -/
def Spares (files : Tree) (places : List Place) (programs : List String) : Prop :=
  ∀ program ∈ programs, ∀ place insisting,
    files.resolve (normal program) = .ok (place, insisting) → place ∉ places

instance (files : Tree) (places : List Place) (programs : List String) :
    Decidable (Spares files places programs) :=
  decidable_of_iff (∀ program ∈ programs,
      ((files.resolve (normal program)).toOption.all fun found => found.1 ∉ places) = true) <| by
    refine forall₂_congr fun program _ => ?_
    rcases files.resolve (normal program) with error | ⟨place, insisting⟩ <;>
      simp [Except.toOption]

theorem Spares.of_sameDirectories {places : List Place} (h : Spares files places programs)
    (hs : files.SameDirectories other) : Spares other places programs :=
  fun program hp place insisting hr =>
    h program hp place insisting (hs.symm.keeps.resolve hr)

theorem Spares.mono {places : List Place} {fewer : List String} (h : Spares files places programs)
    (hf : ∀ program ∈ fewer, program ∈ programs) : Spares files places fewer :=
  fun program hp => h program (hf program hp)

/-- A change of files that is one of the outlets alone. -/
structure Outlets.ChangesOnly (outlets : Outlets) (files after : Tree) : Prop where
  directories : files.SameDirectories after
  others : ∀ place ∉ outlets.places, after.node? place = files.node? place

namespace Outlets

theorem ChangesOnly.refl (outlets : Outlets) (files : Tree) : outlets.ChangesOnly files files where
  directories := .refl files
  others := fun _ _ => rfl

theorem ChangesOnly.keepsPrograms (h : outlets.ChangesOnly files after)
    (hs : Spares files outlets.places programs) : KeepsPrograms programs files after where
  directories := h.directories
  programs := fun program hp place insisting hr => h.others place (hs program hp place insisting hr)

theorem changesOnly_edits (hf : ∀ place ∈ outlets.places, files.Free place)
    (summaries : List Summary) (completed : List String) :
    outlets.ChangesOnly files (files.editAll (outlets.edits summaries completed)) where
  directories := Tree.sameDirectories_editAll (free_edits hf _ _)
  others := fun _ h => node?_of_notMem h _ _

theorem changesOnly_touched (hf : ∀ place ∈ outlets.places, files.Free place) :
    outlets.ChangesOnly files (files.edit (adding outlets.results [])) where
  directories := Tree.sameDirectories_edit (hf _ (by simp [adding, places]))
  others := fun place h => Tree.node?_edit_of_ne fun hp => h (by simp [hp, adding, places])

end Outlets

/-- To store twice is to store all at once, with the later checkpoint. -/
theorem editAll_edits_editAll (hd : outlets.places.Nodup)
    (hf : ∀ place ∈ outlets.places, files.Free place) (first second : List Summary)
    (completed done : List String) :
    (files.editAll (outlets.edits first completed)).editAll (outlets.edits second done) =
      files.editAll (outlets.edits (first ++ second) done) := by
  rw [Tree.editAll_editAll
    (by rw [outlets.map_place_edits, outlets.map_place_edits])
    (by rwa [outlets.map_place_edits]) (Outlets.free_edits hf _ _)]
  congr 1
  unfold Outlets.edits
  simp only [List.cons_append, List.zipWith_cons_cons, adding_comp]
  rw [List.zipWith_append (by simp), List.zipWith_map, List.zipWith_self]
  simp only [adding_comp, List.filter_append]
  rfl

/-- The files after batches in a row; without a batch nothing is stored. -/
def stored (outlets : Outlets) (files : Tree) (batches : List (List String))
    (summaries : List Summary) (completed : List String) : Tree :=
  if batches = [] then files else files.editAll (outlets.edits summaries completed)

theorem changesOnly_stored (hf : ∀ place ∈ outlets.places, files.Free place)
    (batches : List (List String)) (summaries : List Summary) (completed : List String) :
    outlets.ChangesOnly files (stored outlets files batches summaries completed) := by
  unfold stored
  split
  · exact .refl outlets files
  · exact Outlets.changesOnly_edits hf _ _

theorem stored_append (hd : outlets.places.Nodup)
    (hf : ∀ place ∈ outlets.places, files.Free place) (batches more : List (List String))
    (first second : List Summary) (hfirst : batches = [] → first = [])
    (hsecond : more = [] → second = []) (completed : List String) :
    stored outlets (stored outlets files batches first completed) more second
        (completed ++ second.map Summary.program) =
      stored outlets files (batches ++ more) (first ++ second)
        (completed ++ second.map Summary.program) := by
  by_cases hb : batches = []
  · simp [stored, hb, hfirst hb]
  · by_cases hm : more = []
    · simp [stored, hm, hsecond hm]
    · simp only [stored, hb, hm, List.append_eq_nil_iff, false_and, if_false]
      exact editAll_edits_editAll hd hf _ _ _ _

theorem ends_batches (hd : outlets.places.Nodup) {batches : List (List String)}
    (ho : batch.Opens journal files outlets)
    (hs : Spares files outlets.places batches.flatten)
    (hg : gather batch.budget files batches.flatten = .ok summaries) (done : List String) :
    (batches.foldlM (batch.runChunk journal) (.arr (done.map .str))).Ends files
      (.ok (.arr ((done ++ summaries.map Summary.program).map .str)))
      (stored outlets files batches summaries (done ++ summaries.map Summary.program)) := by
  -- What the first batch stores lies apart from all programs, so the others come to the same as
  -- before it, and their edits join its own.
  induction batches generalizing files summaries done with
  | nil =>
    cases hg
    simpa [stored] using ends_pure (Json.arr (done.map .str)) files
  | cons programs batches ih =>
    obtain ⟨first, second, hfirst, hsecond, rfl⟩ := gathered_append hg
    have hchunk := ends_runChunk ho done programs
    rw [hfirst] at hchunk
    have hchanges := Outlets.changesOnly_edits ho.free first (done ++ first.map Summary.program)
    have hrest : Spares files outlets.places batches.flatten :=
      hs.mono fun program hp => List.mem_append_right _ hp
    have hgather := (hchanges.keepsPrograms hrest).gather (fun _ => id) batch.budget
    rw [hsecond] at hgather
    have hloop := ih (ho.of_sameDirectories hchanges.directories)
      (hrest.of_sameDirectories hchanges.directories) hgather (done ++ first.map Summary.program)
    have hprograms : done ++ (first ++ second).map Summary.program =
        done ++ first.map Summary.program ++ second.map Summary.program := by simp
    have hempty : batches = [] → second = [] := by
      rintro rfl
      exact (Except.ok.inj hsecond).symm
    have hstored := stored_append hd ho.free [programs] batches first second (by simp) hempty
      (done ++ first.map Summary.program)
    rw [List.singleton_append] at hstored
    rw [List.foldlM_cons, hprograms, ← hstored]
    exact hchunk.bind hloop

/-- A fault of one program ends the run, and the batches before its own are stored. -/
theorem ends_batches_error (hd : outlets.places.Nodup) {batches more : List (List String)}
    (ho : batch.Opens journal files outlets)
    (hs : Spares files outlets.places (batches.flatten ++ programs))
    (hg : gather batch.budget files batches.flatten = .ok summaries)
    (hf : gather batch.budget files programs = .error fault) (done : List String) :
    ((batches ++ programs :: more).foldlM (batch.runChunk journal)
        (.arr (done.map .str))).Ends files (.error fault)
      (stored outlets files batches summaries (done ++ summaries.map Summary.program)) := by
  have hloop := ends_batches hd ho (hs.mono fun _ => List.mem_append_left _) hg done
  have hchanges := changesOnly_stored ho.free batches summaries
    (done ++ summaries.map Summary.program)
  have hgather := (hchanges.keepsPrograms hs).gather (fun _ => List.mem_append_right _) batch.budget
  have hchunk := ends_runChunk (ho.of_sameDirectories hchanges.directories)
    (done ++ summaries.map Summary.program) programs
  rw [hgather, hf] at hchunk
  rw [List.foldlM_append]
  simp only [List.foldlM_cons]
  exact hloop.bind hchunk.bind_error

/-- What a run does once the folder is there and the pool and the checkpoint are read. -/
theorem ends_run {text : String} (hfolder : files.hasDirectory batch.folder)
    (hpool : files.readText batch.pool = .ok text)
    (hcheck : batch.checkpointIn files = .ok (.arr (done.map .str))) {results : Place}
    (hr : files.Leads batch.resultsFile results) (hsize : batch.size ≠ 0)
    {outcome : Except Fault Json}
    (hloop : ((chunks batch.size.toNat
        ((Pool.ofText text).filter fun program => program ∉ done)).foldlM
          (batch.runChunk journal) (.arr (done.map .str))).Ends
        (files.edit (adding results [])) outcome after) :
    (batch.run journal).Ends files (outcome.map fun _ => ()) after := by
  have hmake : (FileTask.makeWholeWay batch.folder).runOn files = (.ok (), files) := by
    rw [FileTask.runOn_makeWholeWay, Tree.makeWholeWay_of_hasDirectory hfolder]
  have hload : (Pool.load batch.pool).runOn files = (.ok (Pool.ofText text), files) := by
    rw [Pool.runOn_load, hpool]
    rfl
  have hread : batch.readCheckpoint.runOn files = (.ok (.arr (done.map .str)), files) := by
    rw [readCheckpoint_runOn, hcheck]
  unfold run
  refine (ends_onFiles hmake).bind ((ends_onFiles hload).bind ((ends_onFiles hread).bind ?_))
  rw [pendingOf_arr]
  refine (ends_attempt _ _).bind ((ends_say _ _).bind
    ((ends_onFiles (FileTask.runOn_append_of_leads hr _)).bind ?_))
  rw [if_neg hsize]
  cases outcome with
  | error fault => exact hloop.bind_error
  | ok completed => exact hloop.bind (ends_say _ _)

end Batch

end TapeMachine
