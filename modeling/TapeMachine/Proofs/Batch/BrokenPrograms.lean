import Mathlib.Data.List.TakeWhile
import TapeMachine.Proofs.Batch.Agreement
import TapeMachine.Proofs.Batch.Resuming

namespace TapeMachine

open Files DeskTask

namespace Batch

variable {files start : Tree} {batch : Batch} {journal : Journal} {outlets : Outlets}
variable {programs pending done : List String} {batches : List (List String)} {program : String}
variable {n : Int} {fault : Fault}

/-- A program that ends the run it is in. -/
def Breaks (files : Tree) (program : String) (fault : Fault) : Prop :=
  unlessRefused ((files.readText (normal program)).mapError Fault.ofRead) = .error fault

/-- What breaks a run is a file that is no text, or a path with a null character. -/
theorem breaks_iff : Breaks files program fault ↔
    (∃ error, files.readText (normal program) = .error (.undecodable error) ∧
      fault = .encoding error) ∨
    ∃ error, files.readText (normal program) = .error (.refused error) ∧
      error.problem = .nullCharacter ∧ fault = .file error := by
  unfold Breaks
  rcases files.readText (normal program) with (error | error) | text
  · by_cases he : error.problem = .nullCharacter
    · simp [mapError_error, unlessRefused, Fault.ofRead, Fault.isRefusal, he, eq_comm]
    · simp [mapError_error, unlessRefused, Fault.ofRead, Fault.isRefusal, he, Ne.symm he, eq_comm]
  · simp [mapError_error, unlessRefused, Fault.ofRead, Fault.isRefusal, eq_comm]
  · simp [mapError_ok, unlessRefused]

theorem not_held_iff : ¬ Held files program ↔ ∃ fault, Breaks files program fault := by
  unfold Held Breaks
  cases unlessRefused ((files.readText (normal program)).mapError Fault.ofRead) <;> simp

theorem Breaks.verdict (h : Breaks files program fault) :
    verdict (some n) files program = .error fault := by
  unfold Batch.verdict
  unfold Breaks at h
  generalize files.readText (normal program) = result at h ⊢
  cases result with
  | ok text => simp [mapError_ok, unlessRefused] at h
  | error error =>
    simp only [mapError_error, Except.bind, unlessRefused] at h ⊢
    split at h
    next => simp at h
    next hr => rw [if_neg hr, Except.error.inj h]

/-- An outcome that is due to the first program that breaks the run, if there is one. -/
def DueTo {α : Type} (files : Tree) (programs : List String) : Except Fault α → Prop
  | .ok _ => ∀ program ∈ programs, Held files program
  | .error fault => ∃ before broken more, programs = before ++ broken :: more ∧
      (∀ program ∈ before, Held files program) ∧ Breaks files broken fault

theorem DueTo.map {α β : Type} {outcome : Except Fault α} (h : DueTo files programs outcome)
    (f : α → β) : DueTo files programs (outcome.map f) := by
  cases outcome <;> exact h

theorem DueTo.isOk_iff {α : Type} {outcome : Except Fault α} (h : DueTo files programs outcome) :
    outcome.isOk ↔ ∀ program ∈ programs, Held files program := by
  cases outcome with
  | ok value => exact ⟨fun _ => h, fun _ => rfl⟩
  | error fault =>
    obtain ⟨before, broken, more, rfl, -, hb⟩ := h
    refine ⟨nofun, fun ha => ?_⟩
    exact absurd (ha broken (by simp)) (not_held_iff.mpr ⟨fault, hb⟩)

theorem dueTo_gather (n : Int) (files : Tree) (programs : List String) :
    DueTo files programs (gather (some n) files programs) := by
  induction programs with
  | nil => simp [gather, DueTo]
  | cons program programs ih =>
    by_cases hp : Held files program
    · rw [gather, verdict_of_held hp, Except.bind]
      cases hg : gather (some n) files programs with
      | ok summaries =>
        rw [hg] at ih
        exact List.forall_mem_cons.mpr ⟨hp, ih⟩
      | error fault =>
        rw [hg] at ih
        obtain ⟨before, broken, more, rfl, hbefore, hb⟩ := ih
        exact ⟨program :: before, broken, more, rfl, List.forall_mem_cons.mpr ⟨hp, hbefore⟩, hb⟩
    · obtain ⟨fault, hb⟩ := not_held_iff.mp hp
      rw [gather, hb.verdict]
      exact ⟨[], program, programs, rfl, by simp, hb⟩

/-- The batches before the first in which a program breaks the run. -/
def reached (files : Tree) (batches : List (List String)) : List (List String) :=
  batches.takeWhile fun programs => ∀ program ∈ programs, Held files program

theorem reached_of_held (h : ∀ program ∈ batches.flatten, Held files program) :
    reached files batches = batches := by
  refine List.takeWhile_eq_self_iff.mpr fun programs hb => decide_eq_true fun program hp => ?_
  exact h program (List.mem_flatten_of_mem hb hp)

theorem held_of_mem_reached (h : program ∈ (reached files batches).flatten) :
    Held files program := by
  obtain ⟨programs, hb, hp⟩ := List.mem_flatten.mp h
  have ha : ∀ program ∈ programs, Held files program := by
    simpa using List.mem_takeWhile_imp hb
  exact ha program hp

theorem reached_cases (files : Tree) (batches : List (List String)) :
    reached files batches = batches ∨ ∃ programs more,
      batches = reached files batches ++ programs :: more ∧
        ¬ ∀ program ∈ programs, Held files program := by
  induction batches with
  | nil => exact .inl rfl
  | cons programs batches ih =>
    by_cases hp : ∀ program ∈ programs, Held files program
    · have hcons : reached files (programs :: batches) = programs :: reached files batches :=
        List.takeWhile_cons_of_pos (decide_eq_true hp)
      rw [hcons]
      rcases ih with ih | ⟨next, more, ih, hn⟩
      · exact .inl (by rw [ih])
      · exact .inr ⟨next, more, by rw [List.cons_append, ← ih], hn⟩
    · have hnil : reached files (programs :: batches) = [] :=
        List.takeWhile_cons_of_neg (by simpa using hp)
      exact .inr ⟨programs, batches, by rw [hnil, List.nil_append], hp⟩

/-- Batches in a row are stored up to the first in which a program breaks the run. -/
theorem ends_batches_reached (hd : outlets.places.Nodup) (ho : batch.Opens journal files outlets)
    (hs : Spares files outlets.places batches.flatten)
    (hkeeps : KeepsPrograms batches.flatten start files) (hn : batch.budget = some n)
    (done : List String) :
    ∃ outcome : Except Fault Json, DueTo start batches.flatten outcome ∧
      (batches.foldlM (batch.runChunk journal) (.arr (done.map .str))).Ends files outcome
        (stored outlets files (reached start batches)
          (summariesIn n start (reached start batches).flatten)
          (done ++ (summariesIn n start (reached start batches).flatten).map Summary.program)) := by
  -- The programs are judged by the files at the start, those of the loop may hold more results.
  have hheld : ∀ program ∈ (reached start batches).flatten, Held start program :=
    fun program => held_of_mem_reached
  have hgood := gather_of_held (n := n) hheld
  rw [← hn] at hgood
  rcases reached_cases start batches with hall | ⟨programs, more, hsplit, hbad⟩
  · rw [hall] at hgood hheld ⊢
    rw [← hkeeps.gather fun _ => id] at hgood
    exact ⟨.ok _, hheld, ends_batches hd ho hs hgood done⟩
  · have hflat : batches.flatten = (reached start batches).flatten ++ programs ++ more.flatten := by
      conv => lhs; rw [hsplit]
      simp
    have hdue := dueTo_gather n start programs
    cases hg : gather (some n) start programs with
    | ok summaries =>
      rw [hg] at hdue
      exact absurd hdue hbad
    | error fault =>
      rw [hg] at hdue
      obtain ⟨before, broken, rest, hprograms, hbefore, hb⟩ := hdue
      refine ⟨.error fault, ⟨(reached start batches).flatten ++ before, broken,
        rest ++ more.flatten, by simp [hflat, hprograms], ?_, hb⟩, ?_⟩
      · exact fun program hp => (List.mem_append.mp hp).elim (hheld program) (hbefore program)
      · rw [hflat] at hs hkeeps
        rw [← hn, ← hkeeps.gather fun _ hp => List.mem_append_left _ (List.mem_append_right _ hp)]
          at hg
        rw [← hkeeps.gather fun _ hp => List.mem_append_left _ (List.mem_append_left _ hp)]
          at hgood
        have hends : ((reached start batches ++ programs :: more).foldlM (batch.runChunk journal)
            (.arr (done.map .str))).Ends files (.error fault) _ :=
          ends_batches_error hd ho (hs.mono fun _ => List.mem_append_left _) hgood hg done
        rwa [← hsplit] at hends

/-- Files in which the programs of a pool can be run that are not among those done. -/
structure Ready (batch : Batch) (journal : Journal) (files : Tree) (outlets : Outlets)
    (programs done : List String) : Prop where
  lists : batch.Lists files programs
  completed : (batch.readCheckpoint.runOn files).1 = .ok (.arr (done.map .str))
  opens : batch.Opens journal files outlets
  apart : outlets.places.Nodup
  spares : Spares files outlets.places programs

/-- The summaries of the programs that are reached when those of a list are pending. -/
def summariesReached (batch : Batch) (n : Int) (files : Tree) (pending : List String) :
    List Summary :=
  summariesIn n files (reached files (chunks batch.size.toNat pending)).flatten

theorem summariesReached_of_held (hsize : 0 < batch.size)
    (h : ∀ program ∈ pending, Held files program) (n : Int) :
    batch.summariesReached n files pending = summariesIn n files pending := by
  have hflat := flatten_chunks (show 0 < batch.size.toNat by omega) pending
  rw [summariesReached, reached_of_held (by rwa [hflat]), hflat]

theorem ne_nil_of_mem_reached (h : ∀ programs ∈ batches, programs ≠ []) (files : Tree) :
    ∀ programs ∈ reached files batches, programs ≠ [] :=
  fun programs hp => h programs ((List.takeWhile_sublist _).mem hp)

theorem Ready.ends_run_reached (h : batch.Ready journal start outlets programs done)
    (made : files.makeWholeWay batch.folder = (start, none)) (hn : batch.budget = some n)
    (hsize : 0 < batch.size) (hpend : programs.filter (fun program => program ∉ done) = pending) :
    ∃ outcome : Except Fault Unit, DueTo start pending outcome ∧
      (batch.run journal).Ends files outcome
        (outlets.finished start (reached start (chunks batch.size.toNat pending)).flatten
          (batch.summariesReached n start pending)
          (done ++ (batch.summariesReached n start pending).map Summary.program)) := by
  obtain ⟨⟨text, hpool, rfl⟩, hcheck, ho, hd, hs⟩ := h
  rw [readCheckpoint_fst] at hcheck
  have hpos : 0 < batch.size.toNat := by omega
  have hflat := flatten_chunks hpos pending
  have hspares : Spares start outlets.places (chunks batch.size.toNat pending).flatten := by
    rw [hflat, ← hpend]
    exact hs.mono fun program hp => (List.mem_filter.mp hp).1
  have hchanges := Outlets.changesOnly_touched ho.free
  obtain ⟨outcome, hdue, hloop⟩ := ends_batches_reached hd
    (ho.of_sameDirectories hchanges.directories) (hspares.of_sameDirectories hchanges.directories)
    (hchanges.keepsPrograms hspares) hn done
  rw [hflat] at hdue
  rw [stored_touched ho.results.2 (ne_nil_of_mem_reached (ne_nil_of_mem_chunks _ _) start)]
    at hloop
  rw [← hpend] at hloop hdue ⊢
  exact ⟨_, hdue.map fun _ => (), ends_run_made made (ends_run
    (Tree.hasDirectory_of_makeWholeWay made) hpool hcheck ho.results (by omega) hloop)⟩

theorem opens_brokenPool : brokenPool.Opens brokenPoolJournal brokenPoolOpened poolOutlets := by
  refine ⟨?_, ?_, .onDisk rfl rfl ?_ rfl ?_⟩
  · rw [resultsFile_brokenPool]
    decide +kernel
  · rw [checkpointFile_brokenPool]
    decide +kernel
  · decide +kernel
  · decide +kernel

theorem ready_brokenPool : brokenPool.Ready brokenPoolJournal brokenPoolOpened poolOutlets
    ["a.tm", "b.tm"] [] where
  lists := ⟨"a.tm\nb.tm\n", by decide +kernel, by decide +kernel⟩
  completed := by
    rw [readCheckpoint_fst]
    exact checkpointIn_of_leads opens_brokenPool.checkpoint (by decide +kernel)
  opens := opens_brokenPool
  apart := by decide +kernel
  spares := by decide +kernel

theorem Ready.resized (h : batch.Ready journal files outlets programs done) (size : Int) :
    Ready { batch with size } journal files outlets programs done where
  lists := h.lists
  completed := h.completed
  opens := ⟨h.opens.results, h.opens.checkpoint, h.opens.logs⟩
  apart := h.apart
  spares := h.spares

theorem made_brokenPool :
    brokenPoolDesk.files.makeWholeWay brokenPool.folder = (brokenPoolOpened, none) := by
  rw [folder_brokenPool]
  decide +kernel

/-- A run returns if no program that is pending breaks it, and then all of them that have texts
have their results and are recorded. Otherwise it ends by the fault of the first that breaks it,
and only those of the batches before are. -/
theorem Ready.run_stores_reached (h : batch.Ready journal start outlets programs done)
    (made : files.makeWholeWay batch.folder = (start, none)) (hn : batch.budget = some n)
    (hsize : 0 < batch.size) (hpend : programs.filter (fun program => program ∉ done) = pending) :
    ∃ outcome after, (batch.run journal).Ends files outcome after ∧
      DueTo start pending outcome ∧
      (outcome.isOk ↔ ∀ program ∈ pending, Held start program) ∧
      (outcome.isOk → batch.summariesReached n start pending = summariesIn n start pending) ∧
      (∃ text, Reports (batch.summariesReached n start pending) text ∧
        after.bytesAt outlets.results = start.bytesAt outlets.results ++ text.toUTF8) ∧
      (batch.readCheckpoint.runOn after).1 = .ok (.arr
        ((done ++ (batch.summariesReached n start pending).map Summary.program).map .str)) := by
  obtain ⟨outcome, hdue, hends⟩ := h.ends_run_reached made hn hsize hpend
  have hcheck := h.completed
  rw [readCheckpoint_fst] at hcheck
  have hempty : (reached start (chunks batch.size.toNat pending)).flatten = [] →
      batch.summariesReached n start pending = [] := by
    intro he
    rw [summariesReached, he]
    rfl
  refine ⟨outcome, _, hends, hdue, hdue.isOk_iff, fun hok => ?_, ?_, ?_⟩
  · exact summariesReached_of_held hsize (hdue.isOk_iff.mp hok) n
  · exact ⟨_, reports_linesOf _,
      Tree.bytesAt_of_file (node?_results_finished h.opens h.apart hempty _)⟩
  · rw [readCheckpoint_fst]
    exact checkpointIn_finished h.opens h.apart hcheck hempty

/-- In batches of one the program before the broken one is stored. -/
theorem run_stores_reached_brokenPool :
    ∃ outcome after, (brokenPool.run brokenPoolJournal).Ends brokenPoolDesk.files outcome after ∧
      outcome.isOk = false ∧
      (brokenPool.readCheckpoint.runOn after).1 = .ok (.arr [.str "a.tm"]) := by
  obtain ⟨outcome, after, hends, -, hok, -, -, hcheck⟩ :=
    ready_brokenPool.run_stores_reached made_brokenPool rfl (by decide)
      (show _ = ["a.tm", "b.tm"] by decide)
  have hchunks : chunks brokenPool.size.toNat ["a.tm", "b.tm"] = [["a.tm"], ["b.tm"]] := by
    simp [chunks, brokenPool]
  have hprograms : (brokenPool.summariesReached 10000 brokenPoolOpened ["a.tm", "b.tm"]).map
      Summary.program = ["a.tm"] := by
    rw [summariesReached, hchunks]
    decide +kernel
  rw [hprograms] at hcheck
  refine ⟨outcome, after, hends, Bool.eq_false_iff.mpr fun h => ?_, hcheck⟩
  exact absurd (hok.mp h) (by decide +kernel)

/-- In one batch nothing is stored at all, although one of the programs has a text. -/
theorem brokenPool_stores_nothing :
    ∃ fault after,
      (Batch.run { brokenPool with size := 64 } brokenPoolJournal).Ends brokenPoolDesk.files
        (.error fault) after ∧
      brokenPoolOpened.readText "a.tm" = .ok "" ∧
      after.bytesAt poolOutlets.results = .empty ∧
      (brokenPool.readCheckpoint.runOn after).1 = .ok (.arr []) := by
  obtain ⟨outcome, hdue, hends⟩ := (ready_brokenPool.resized 64).ends_run_reached made_brokenPool
    rfl (by decide) (show _ = ["a.tm", "b.tm"] by decide)
  have hchunks : chunks (Batch.size { brokenPool with size := 64 }).toNat ["a.tm", "b.tm"] =
      [["a.tm", "b.tm"]] := by
    simp [chunks]
  have hreached : reached brokenPoolOpened [["a.tm", "b.tm"]] = [] := by decide +kernel
  rw [summariesReached, hchunks, hreached] at hends
  cases outcome with
  | ok value => exact absurd (hdue.isOk_iff.mp rfl) (by decide +kernel)
  | error fault =>
    have hcheck := ready_brokenPool.completed
    rw [readCheckpoint_fst] at hcheck
    refine ⟨fault, _, hends, by decide +kernel, by decide +kernel, ?_⟩
    rw [readCheckpoint_fst]
    exact checkpointIn_finished ready_brokenPool.opens ready_brokenPool.apart hcheck fun _ => rfl

end Batch

end TapeMachine
