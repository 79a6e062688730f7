import TapeMachine.Proofs.Batch.Finished

namespace TapeMachine

open Files DeskTask

namespace Batch

variable {files start after later whole : Tree} {batch longer : Batch} {journal another : Journal}
variable {outlets others : Outlets} {programs done head tail : List String} {n : Int}

/-- Files in which programs can be run for the first time: there are neither results nor a
checkpoint, the outlets are files of their own, and no program lies there. -/
structure Fresh (batch : Batch) (journal : Journal) (files : Tree) (outlets : Outlets)
    (programs : List String) : Prop where
  folder : files.hasDirectory batch.folder
  opens : batch.Opens journal files outlets
  apart : outlets.places.Nodup
  results : files.node? outlets.results = none
  checkpoint : files.node? outlets.checkpoint = none
  spares : Spares files outlets.places programs
  held : ∀ program ∈ programs, Held files program
  nodup : programs.Nodup

/-- What differs from other files in neither outlets nor programs. -/
structure Untouched (outlets : Outlets) (programs : List String) (files other : Tree) : Prop
    extends KeepsPrograms programs files other where
  outlets : ∀ place ∈ outlets.places, other.node? place = files.node? place

theorem Untouched.refl (outlets : Outlets) (programs : List String) (files : Tree) :
    Untouched outlets programs files files where
  directories := .refl files
  programs := fun _ _ _ _ _ => rfl
  outlets := fun _ _ => rfl

theorem Fresh.of_untouched (h : batch.Fresh journal files outlets programs)
    (hu : Untouched outlets programs files later) : batch.Fresh journal later outlets programs where
  folder := Tree.hasDirectory_of_sameDirectories hu.directories h.folder
  opens := h.opens.of_sameDirectories hu.directories
  apart := h.apart
  results := by rw [hu.outlets _ (by simp [Outlets.places]), h.results]
  checkpoint := by rw [hu.outlets _ (by simp [Outlets.places]), h.checkpoint]
  spares := h.spares.of_sameDirectories hu.directories
  held := fun program hp => hu.held hp (h.held program hp)
  nodup := h.nodup

theorem Fresh.mono {fewer : List String} (h : batch.Fresh journal files outlets programs)
    (hs : fewer.Sublist programs) : batch.Fresh journal files outlets fewer where
  folder := h.folder
  opens := h.opens
  apart := h.apart
  results := h.results
  checkpoint := h.checkpoint
  spares := h.spares.mono fun _ => hs.mem
  held := fun program hp => h.held program (hs.mem hp)
  nodup := h.nodup.sublist hs

theorem Fresh.resized (h : batch.Fresh journal files outlets programs) (size : Int) :
    Fresh { batch with size } journal files outlets programs where
  folder := h.folder
  opens := ⟨h.opens.results, h.opens.checkpoint, h.opens.logs⟩
  apart := h.apart
  results := h.results
  checkpoint := h.checkpoint
  spares := h.spares
  held := h.held
  nodup := h.nodup

theorem Fresh.checkpointIn (h : batch.Fresh journal files outlets programs) :
    batch.checkpointIn files = .ok (.arr (([] : List String).map .str)) :=
  checkpointIn_of_leads h.opens.checkpoint h.checkpoint

def Outlets.finishedFirst (outlets : Outlets) (n : Int) (files : Tree) (programs : List String) :
    Tree :=
  outlets.finished files programs (summariesIn n files programs)
    ((summariesIn n files programs).map Summary.program)

/-- The first run of a pool, in batches of any size. -/
theorem Fresh.ends_run (h : batch.Fresh journal files outlets programs)
    (hlists : batch.Lists files programs) (hn : batch.budget = some n) (hsize : 0 < batch.size) :
    (batch.run journal).Ends files (.ok ()) (outlets.finishedFirst n files programs) := by
  have hgather := gather_of_held (n := n) h.held
  rw [← hn] at hgather
  have hrun := ends_run_finished h.folder hlists h.opens h.apart h.spares h.checkpointIn hsize
    (by simp) hgather
  rwa [List.nil_append] at hrun

theorem Fresh.tells (h : batch.Fresh journal files outlets programs) (n : Int) :
    batch.Tells outlets files (outlets.finishedFirst n files programs)
      (summariesIn n files programs) := by
  have hempty : programs = [] → summariesIn n files programs = [] := by
    rintro rfl
    rfl
  have hbytes : files.bytesAt outlets.results = (linesOf []).toUTF8 := by
    rw [Tree.bytesAt_of_none h.results]
    rfl
  have hstores := stores_finished h.opens h.apart hempty hbytes h.checkpointIn
  rw [List.map_nil, List.nil_append, List.nil_append] at hstores
  exact ⟨hstores, fun log hl => ⟨_, reports_linesOf _,
    bytesAt_log_finished h.opens h.apart hempty hl _⟩⟩

theorem summariesIn_append (n : Int) (files : Tree) (programs more : List String) :
    summariesIn n files (programs ++ more) =
      summariesIn n files programs ++ summariesIn n files more :=
  List.filterMap_append

/-- What is pending after a first part are the rest of the programs and those of the first part
that have no texts, which come to nothing again. -/
theorem summariesIn_pending (hd : (head ++ tail).Nodup) (n : Int) (files : Tree) :
    summariesIn n files ((head ++ tail).filter fun program =>
        program ∉ (summariesIn n files head).map Summary.program) =
      summariesIn n files tail := by
  have hdone : ∀ program, program ∈ (summariesIn n files head).map Summary.program ↔
      program ∈ head ∧ (summary? n files program).isSome := by
    intro program
    rw [map_program_summariesIn, List.mem_filter]
  have hhead : (head.filter fun program =>
      program ∉ (summariesIn n files head).map Summary.program).filterMap (summary? n files) =
        [] := by
    refine List.filterMap_eq_nil_iff.mpr fun program hp => ?_
    obtain ⟨hm, hn⟩ := List.mem_filter.mp hp
    simpa [hdone, hm] using hn
  have htail : (tail.filter fun program =>
      program ∉ (summariesIn n files head).map Summary.program) = tail := by
    refine List.filter_eq_self.mpr fun program hp => ?_
    have hm : program ∉ head := fun hm => (List.nodup_append.mp hd).2.2 program hm program hp rfl
    simp [hdone, hm]
  rw [summariesIn, List.filter_append, List.filterMap_append, hhead, htail]
  rfl

theorem SharesFiles.checkpointIn (h : longer.SharesFiles batch) (files : Tree) :
    longer.checkpointIn files = batch.checkpointIn files := by
  unfold Batch.checkpointIn
  rw [h.checkpointFile]

theorem SharesFiles.results_eq (h : longer.SharesFiles batch)
    (ho : batch.Opens journal files outlets) (ho' : longer.Opens another files others) :
    others.results = outlets.results := by
  have hr := ho'.results.1
  rw [h.resultsFile, ho.results.1, Except.ok.injEq, Prod.mk.injEq] at hr
  exact hr.1.symm

/-- A run of a longer pool goes on where the run of the first part of it ended. -/
theorem Fresh.resumes (h : batch.Fresh journal start outlets (head ++ tail))
    (hfirst : batch.Stores outlets after (summariesIn n start head))
    (hchanges : outlets.ChangesOnly start after)
    (h' : longer.Fresh another start others (head ++ tail)) (hshares : longer.SharesFiles batch)
    (hn : longer.budget = some n) (hsize : 0 < longer.size)
    (hu : Untouched others (head ++ tail) after later)
    (hlists : longer.Lists later (head ++ tail)) :
    ∃ resumed, (longer.run another).Ends later (.ok ()) resumed ∧
      longer.Stores others resumed (summariesIn n start (head ++ tail)) := by
  have hkeeps := (hchanges.keepsPrograms h.spares).trans hu.toKeepsPrograms
  have hopens := h'.opens.of_sameDirectories hkeeps.directories
  have hbytes : later.bytesAt others.results = (linesOf (summariesIn n start head)).toUTF8 := by
    refine Tree.bytesAt_of_file ?_
    rw [hu.outlets _ (by simp [Outlets.places]), hshares.results_eq h.opens h'.opens,
      hfirst.results]
  -- The longer batch finds the checkpoint of the first and leaves out what is listed there.
  have hcheck : longer.checkpointIn later =
      .ok (.arr (((summariesIn n start head).map Summary.program).map .str)) := by
    have hc := hfirst.completed
    rw [readCheckpoint_fst, ← hshares.checkpointIn] at hc
    rw [← hc]
    exact checkpointIn_of_sameDirectories hu.directories
      (h'.opens.checkpoint.of_sameDirectories hchanges.directories)
      (hu.outlets _ (by simp [Outlets.places]))
  have hheld : ∀ program ∈ (head ++ tail).filter fun program =>
      program ∉ (summariesIn n start head).map Summary.program, Held later program :=
    fun program hp => hkeeps.held (List.mem_of_mem_filter hp)
      (h.held program (List.mem_of_mem_filter hp))
  have hgather := gather_of_held (n := n) hheld
  rw [hkeeps.summariesIn h.held n fun program => List.mem_of_mem_filter,
    summariesIn_pending h.nodup, ← hn] at hgather
  have hempty : ((head ++ tail).filter fun program =>
      program ∉ (summariesIn n start head).map Summary.program) = [] →
        summariesIn n start tail = [] := by
    intro he
    rw [← summariesIn_pending h.nodup, he]
    rfl
  have hstores := stores_finished hopens h'.apart hempty hbytes hcheck
  rw [← summariesIn_append] at hstores
  exact ⟨_, ends_run_finished (Tree.hasDirectory_of_sameDirectories hkeeps.directories h'.folder)
    hlists hopens h'.apart (h'.spares.of_sameDirectories hkeeps.directories) hcheck hsize rfl
    hgather, hstores⟩

theorem bytesAt_edit_adding_nil {results : Place} (hf : files.Free results) (place : Place) :
    (files.edit (adding results [])).bytesAt place = files.bytesAt place := by
  by_cases hp : place = results
  · subst hp
    exact (Tree.bytesAt_of_file (Tree.node?_edit_self hf)).trans (adding_nil place _)
  · exact Tree.bytesAt_congr (Tree.node?_edit_of_ne hp)

theorem edit_adding_nil {results : Place} (hf : files.Free results)
    (hn : files.node? results ≠ none) : files.edit (adding results []) = files := by
  rcases Tree.free_iff.mp hf with hr | ⟨content, hr⟩
  · exact absurd hr hn
  · exact Tree.edit_of_keeps hr (adding_nil results content)

/-- A run first makes the folder of its results. -/
theorem ends_run_made {outcome : Except Fault Unit}
    (made : files.makeWholeWay batch.folder = (start, none))
    (h : (batch.run journal).Ends start outcome after) :
    (batch.run journal).Ends files outcome after := by
  rintro desk rfl
  have hsame : (batch.run journal).runAt desk =
      (batch.run journal).runAt { desk with files := start } := by
    unfold run
    simp only [runAt_bind, runAt_onFiles, FileTask.runOn_makeWholeWay, made,
      Tree.makeWholeWay_again made]
  rw [hsame]
  exact h _ rfl

/-- The results can be added to, and the checkpoint calls all programs of the pool completed. -/
structure Exhausted (batch : Batch) (files : Tree) (results : Place) : Prop where
  opens : files.Leads batch.resultsFile results
  completed : ∃ programs done : List String, batch.Lists files programs ∧
    (batch.readCheckpoint.runOn files).1 = .ok (.arr (done.map .str)) ∧
    ∀ program ∈ programs, program ∈ done

/-- A run in which nothing is pending adds nothing to any file, but that it makes the results if
they are not there. -/
theorem Exhausted.ends_run {results : Place} (h : batch.Exhausted start results)
    (made : files.makeWholeWay batch.folder = (start, none)) (hsize : 0 < batch.size) :
    ∃ same, (batch.run journal).Ends files (.ok ()) same ∧
      (∀ place, same.bytesAt place = start.bytesAt place) ∧
      (start.node? results ≠ none → same = start) := by
  obtain ⟨hopens, programs, done, ⟨text, hpool, rfl⟩, hcheck, hdone⟩ := h
  rw [readCheckpoint_fst] at hcheck
  have hpend : ((Pool.ofText text).filter fun program => program ∉ done) = [] := by
    simpa using hdone
  have hloop : ((chunks batch.size.toNat
      ((Pool.ofText text).filter fun program => program ∉ done)).foldlM
        (batch.runChunk journal) (.arr (done.map .str))).Ends (start.edit (adding results []))
      (.ok (.arr (done.map .str))) (start.edit (adding results [])) := by
    rw [hpend, chunks_nil]
    exact ends_pure _ _
  have hrun := Batch.ends_run (Tree.hasDirectory_of_makeWholeWay made) hpool hcheck hopens
    (by omega) hloop
  exact ⟨_, ends_run_made made hrun, bytesAt_edit_adding_nil hopens.2, edit_adding_nil hopens.2⟩

/-- A pool comes to the same in batches of any size, and so does a longer pool whether or not the
first part of it was run before. Where nothing is pending, nothing is added. -/
theorem batched_and_resumed_runs_agree (made : files.makeWholeWay batch.folder = (start, none))
    (fresh : batch.Fresh journal start outlets (head ++ tail)) (lists : batch.Lists start head)
    (hbudget : batch.budget = some n) :
    (∃ after,
      (∀ size, 0 < size → (Batch.run { batch with size } journal).Ends files (.ok ()) after) ∧
      batch.Tells outlets start after (summariesIn n start head) ∧
      outlets.ChangesOnly start after ∧
      ∀ (longer : Batch) (another : Journal) (others : Outlets) (later before whole : Tree),
        longer.SharesFiles batch → longer.budget = some n → 0 < longer.size →
        longer.Fresh another start others (head ++ tail) →
        Untouched others (head ++ tail) after later → longer.Lists later (head ++ tail) →
        before.makeWholeWay longer.folder = (whole, none) →
        Untouched others (head ++ tail) start whole → longer.Lists whole (head ++ tail) →
        ∃ resumed unbroken,
          (longer.run another).Ends later (.ok ()) resumed ∧
          (longer.run another).Ends before (.ok ()) unbroken ∧
          longer.Stores others resumed (summariesIn n start (head ++ tail)) ∧
          longer.Stores others unbroken (summariesIn n start (head ++ tail))) ∧
    ∀ (again : Batch) (another : Journal) (before ready : Tree) (results : Place),
      again.Exhausted ready results →
      before.makeWholeWay again.folder = (ready, none) → 0 < again.size →
      ∃ same, (again.run another).Ends before (.ok ()) same ∧
        (∀ place, same.bytesAt place = ready.bytesAt place) ∧
        (ready.node? results ≠ none → same = ready) := by
  have hfirst := fresh.mono (List.sublist_append_left head tail)
  have htells := hfirst.tells n
  have hchanges : outlets.ChangesOnly start (outlets.finishedFirst n start head) :=
    Outlets.changesOnly_finished hfirst.opens.free _ _ _
  refine ⟨⟨_, fun size hsize => ?_, htells, hchanges, ?_⟩, ?_⟩
  · exact ends_run_made made ((hfirst.resized size).ends_run lists hbudget hsize)
  · intro longer another others later before whole hshares hn hsize fresh' hlater hlists' hbefore
      hwhole hlists
    obtain ⟨resumed, hresumed, hstores⟩ :=
      fresh.resumes htells.toStores hchanges fresh' hshares hn hsize hlater hlists'
    have hunbroken := fresh'.of_untouched hwhole
    have hstores' := (hunbroken.tells n).toStores
    rw [hwhole.toKeepsPrograms.summariesIn fresh'.held n fun _ => id] at hstores'
    exact ⟨resumed, _, hresumed, ends_run_made hbefore (hunbroken.ends_run hlists hn hsize),
      hstores, hstores'⟩
  · intro again another before ready results hexhausted hbefore hsize
    exact hexhausted.ends_run hbefore hsize

/-- A pool of a program without rules, and a longer one that goes on with a program that is not
there and with one that runs. -/
def shortPool : Batch := { pool := "short/pool", size := 1 }

def longPool : Batch := { pool := "long/pool" }

def poolFiles : Tree :=
  ⟨[(["short"], .directory), (["short", "pool"], .file "a.tm\n".toUTF8),
    (["long"], .directory), (["long", "pool"], .file "a.tm\nmissing.tm\nb.tm\n".toUTF8),
    (["a.tm"], .file .empty), (["b.tm"], .file "q:\n  _: {write: 1, R: q}\n".toUTF8),
    (["logs"], .directory)]⟩

def poolFilesMade : Tree :=
  ⟨poolFiles.nodes ++ [(["results"], .directory), (["results", "pool"], .directory)]⟩

def poolJournal : Journal := { day := "2024-05-01" }

def poolOutlets : Outlets where
  results := ["results", "pool", "results.jsonl"]
  checkpoint := ["results", "pool", "results_checkpoint.json"]
  logs := [(["logs", "halting_2024-05-01.jsonl"], Summary.halted),
    (["logs", "errors_2024-05-01.jsonl"], fun summary => summary.error?.isSome)]

theorem folder_shortPool : shortPool.folder = "results/pool" := by
  decide +kernel

theorem made_shortPool : poolFiles.makeWholeWay shortPool.folder = (poolFilesMade, none) := by
  rw [folder_shortPool]
  decide +kernel

theorem sharesFiles_longPool : longPool.SharesFiles shortPool :=
  ⟨rfl, rfl, by decide +kernel⟩

theorem fresh_shortPool : shortPool.Fresh poolJournal poolFilesMade poolOutlets
    ["a.tm", "missing.tm", "b.tm"] where
  folder := by
    rw [folder_shortPool]
    decide +kernel
  opens := by
    refine ⟨?_, ?_, .onDisk rfl rfl ?_ rfl ?_⟩
    · rw [resultsFile, folder_shortPool]
      decide +kernel
    · rw [checkpointFile, folder_shortPool]
      decide +kernel
    · decide +kernel
    · decide +kernel
  apart := by decide +kernel
  results := by decide +kernel
  checkpoint := by decide +kernel
  spares := by decide +kernel
  held := by decide +kernel
  nodup := by decide +kernel

theorem fresh_longPool : longPool.Fresh poolJournal poolFilesMade poolOutlets
    ["a.tm", "missing.tm", "b.tm"] := by
  obtain ⟨hf, ⟨hr, hc, hl⟩, ha, hn, hn', hs, hh, hd⟩ := fresh_shortPool
  rw [← sharesFiles_longPool.folder] at hf
  rw [← sharesFiles_longPool.resultsFile] at hr
  rw [← sharesFiles_longPool.checkpointFile] at hc
  exact ⟨hf, ⟨hr, hc, hl⟩, ha, hn, hn', hs, hh, hd⟩

theorem lists_shortPool : shortPool.Lists poolFilesMade ["a.tm"] :=
  ⟨"a.tm\n", by decide +kernel, by decide +kernel⟩

theorem lists_longPool : longPool.Lists poolFilesMade ["a.tm", "missing.tm", "b.tm"] :=
  ⟨"a.tm\nmissing.tm\nb.tm\n", by decide +kernel, by decide +kernel⟩

theorem batched_and_resumed_runs_agree_longPool :
    ∃ after resumed unbroken,
      (shortPool.run poolJournal).Ends poolFiles (.ok ()) after ∧
      (Batch.run { shortPool with size := 7 } poolJournal).Ends poolFiles (.ok ()) after ∧
      (shortPool.run poolJournal).Ends after (.ok ()) after ∧
      (longPool.run poolJournal).Ends after (.ok ()) resumed ∧
      (longPool.run poolJournal).Ends poolFiles (.ok ()) unbroken ∧
      resumed.node? poolOutlets.results = unbroken.node? poolOutlets.results ∧
      (longPool.readCheckpoint.runOn resumed).1 = (longPool.readCheckpoint.runOn unbroken).1 := by
  have fresh : shortPool.Fresh poolJournal poolFilesMade poolOutlets
    (["a.tm"] ++ ["missing.tm", "b.tm"]) := fresh_shortPool
  obtain ⟨⟨after, hsizes, htells, hchanges, hlonger⟩, hagain⟩ :=
    batched_and_resumed_runs_agree made_shortPool fresh lists_shortPool rfl
  have hshort : poolFilesMade.resolve "short/pool" = .ok (["short", "pool"], false) := by
    decide +kernel
  have hlong : poolFilesMade.resolve "long/pool" = .ok (["long", "pool"], false) := by
    decide +kernel
  have hfolder := Tree.hasDirectory_of_sameDirectories hchanges.directories fresh.folder
  have hexhausted : shortPool.Exhausted after poolOutlets.results :=
    ⟨fresh.opens.results.of_sameDirectories hchanges.directories, ["a.tm"], _,
      hchanges.lists lists_shortPool hshort (by decide), htells.completed, by decide +kernel⟩
  obtain ⟨same, hsame, -, heq⟩ := hagain shortPool poolJournal after after _ hexhausted
    (Tree.makeWholeWay_of_hasDirectory hfolder) (by decide)
  rw [heq (by simp [htells.results])] at hsame
  obtain ⟨resumed, unbroken, hresumed, hunbroken, hstores, hstores'⟩ :=
    hlonger longPool poolJournal poolOutlets after poolFiles poolFilesMade sharesFiles_longPool rfl
      (by decide) fresh_longPool (.refl _ _ _)
      (hchanges.lists lists_longPool hlong (by decide))
      (sharesFiles_longPool.folder ▸ made_shortPool) (.refl _ _ _) lists_longPool
  exact ⟨after, resumed, unbroken, hsizes 1 (by decide), hsizes 7 (by decide), hsame, hresumed,
    hunbroken, hstores.results.trans hstores'.results.symm,
    hstores.completed.trans hstores'.completed.symm⟩

end Batch

end TapeMachine
