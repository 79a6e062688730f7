import TapeMachine.Console.Desk
import TapeMachine.Proofs.Files.Edits
import TapeMachine.Proofs.Json.Cuts

namespace TapeMachine

variable {α β : Type} {files after last : Files.Tree} {fault : Fault} {value : α}

theorem mapError_ok {ε ε' : Type} (f : ε → ε') (value : α) :
    (.ok value : Except ε α).mapError f = .ok value := rfl

theorem mapError_error {ε ε' : Type} (f : ε → ε') (error : ε) :
    (.error error : Except ε α).mapError f = .error (f error) := rfl

namespace FileTask

variable {task : FileTask α} {next : α → FileTask β} {path : String}

theorem runOn_attempt (result : Except Fault α) (files : Files.Tree) :
    (attempt result).runOn files = (result, files) := by
  cases result <;> rfl

theorem runOn_get (files : Files.Tree) : (get : FileTask Files.Tree).runOn files = (.ok files, files) :=
  rfl

theorem runOn_bind (task : FileTask α) (next : α → FileTask β) (files : Files.Tree) :
    (task >>= next).runOn files =
      match task.runOn files with
      | (.ok value, after) => (next value).runOn after
      | (.error fault, after) => (.error fault, after) := by
  unfold runOn
  rw [ExceptT.run_bind, StateT.run_bind]
  rcases task.run.run files with ⟨_ | _, _⟩ <;> rfl

theorem runOn_bind_ok (h : task.runOn files = (.ok value, after)) :
    (task >>= next).runOn files = (next value).runOn after := by
  rw [runOn_bind, h]

/-- Work that comes to its end has done so in both its parts. -/
theorem ok_of_bind {result : β} (h : (task >>= next).runOn files = (.ok result, last)) :
    ∃ value after, task.runOn files = (.ok value, after) ∧
      (next value).runOn after = (.ok result, last) := by
  rw [runOn_bind] at h
  rcases ht : task.runOn files with ⟨_ | value, after⟩
  · rw [ht] at h
    cases h
  · rw [ht] at h
    exact ⟨value, after, rfl, h⟩

theorem runOn_change (f : Files.Tree → Except Files.Error Files.Tree) (files : Files.Tree) :
    (change f).runOn files =
      match f files with
      | .ok after => (.ok (), after)
      | .error error => (.error (Fault.file error), files) := by
  unfold change
  rw [runOn_bind, runOn_get]
  cases h : f files <;> simp only [h] <;> rfl

theorem runOn_readText (path : String) (files : Files.Tree) :
    (readText path).runOn files = ((files.readText path).mapError Fault.ofRead, files) :=
  runOn_attempt _ files

theorem runOn_readJson (path : String) (files : Files.Tree) :
    (readJson path).runOn files =
      (((files.readText path).mapError Fault.ofRead).bind fun text =>
        (Json.read text).mapError Fault.json, files) := by
  rw [readJson, runOn_bind, runOn_readText]
  cases files.readText path with
  | error problem => rfl
  | ok text => exact runOn_attempt _ files

theorem runOn_readJson_of_readText {text : String} {value : Json}
    (h : files.readText path = .ok text) (hr : Json.read text = .ok value) :
    (readJson path).runOn files = (.ok value, files) := by
  rw [runOn_readJson, h, mapError_ok, Except.bind, hr, mapError_ok]

theorem runOn_spelled {wording : Text.Wording} (h : wording.spelled = .ok path)
    (files : Files.Tree) : (spelled wording).runOn files = (.ok path, files) := by
  rw [spelled, h]
  rfl

theorem ok_of_spelled {wording : Text.Wording} (h : (spelled wording).runOn files = (.ok path, after)) :
    wording.spelled = .ok path ∧ files = after := by
  rw [spelled, runOn_attempt] at h
  obtain ⟨hw, hf⟩ := Prod.mk.inj h
  refine ⟨?_, hf⟩
  cases hs : wording.spelled with
  | error error =>
    rw [hs] at hw
    cases hw
  | ok other =>
    rw [hs] at hw
    cases hw
    rfl

theorem runOn_lookUp (path : String) (files : Files.Tree) :
    (lookUp path).runOn files =
      ((files.lookedUp (Files.normal path)).mapError Fault.file, files) := by
  unfold lookUp
  simp only [Text.Wording.spelled]
  rw [runOn_bind, runOn_get]
  exact runOn_attempt _ files

theorem runOn_makeWholeWay (path : String) (files : Files.Tree) :
    (makeWholeWay path).runOn files =
      match files.makeWholeWay path with
      | (after, none) => (.ok (), after)
      | (after, some error) => (.error (Fault.file error), after) := by
  unfold makeWholeWay makeUntil
  rw [runOn_bind, runOn_get]
  rcases h : files.makeWholeWay path with ⟨after, _ | error⟩ <;> simp only [h] <;> rfl

theorem runOn_makeDirectories {wording : Text.Wording} (h : wording.spelled = .ok path)
    (files : Files.Tree) :
    (makeDirectories wording).runOn files =
      match files.makeDirectories path with
      | (after, none) => (.ok (), after)
      | (after, some error) => (.error (Fault.file error), after) := by
  unfold makeDirectories makeUntil
  rw [h]
  simp only
  rw [runOn_bind, runOn_get]
  rcases hm : files.makeDirectories path with ⟨after, _ | error⟩ <;> simp only [hm] <;> rfl

theorem ok_of_makeDirectories {wording : Text.Wording}
    (h : (makeDirectories wording).runOn files = (.ok (), after)) :
    ∃ path, wording.spelled = .ok path ∧ files.makeDirectories path = (after, none) := by
  cases hs : wording.spelled with
  | error error =>
    rw [makeDirectories, hs] at h
    obtain ⟨_, _, _, hthrow⟩ := ok_of_bind h
    cases hthrow
  | ok path =>
    rw [runOn_makeDirectories hs] at h
    refine ⟨path, rfl, ?_⟩
    rcases hm : files.makeDirectories path with ⟨made, _ | error⟩
    · rw [hm] at h
      cases h
      rfl
    · rw [hm] at h
      cases h

theorem runOn_tryCatch (task : FileTask α) (handle : Fault → FileTask α) (files : Files.Tree) :
    (tryCatch task handle).runOn files =
      match task.runOn files with
      | (.ok value, after) => (.ok value, after)
      | (.error fault, after) => (handle fault).runOn after := by
  unfold runOn
  simp only [tryCatch, tryCatchThe, MonadExceptOf.tryCatch, ExceptT.tryCatch, ExceptT.run_mk,
    StateT.run_bind]
  have h : StateT.run task files = task.runOn files := rfl
  have h' : StateT.run (ExceptT.run task) files = task.runOn files := rfl
  rw [h, h']
  rcases task.runOn files with ⟨_ | _, _⟩ <;> rfl

theorem runOn_append_of_leads {place : Files.Place} (h : files.Leads path place) (text : String) :
    (append path text).runOn files =
      (.ok (), files.edit ⟨place, (· ++ text.toUTF8)⟩) := by
  rw [append, runOn_change, h.append]

theorem runOn_append_of_error {error : Files.Error} (h : files.target path = .error error)
    (text : String) : (append path text).runOn files = (.error (.file error), files) := by
  rw [append, runOn_change, Files.Tree.append, h]
  rfl

theorem runOn_write_of_leads {place : Files.Place} (h : files.Leads path place) (text : String) :
    (write path text).runOn files = (.ok (), files.edit ⟨place, fun _ => text.toUTF8⟩) := by
  rw [write, runOn_change, h.write]

theorem leads_of_write {text : String} (h : (write path text).runOn files = (.ok (), after)) :
    ∃ place, files.Leads path place := by
  rw [write, runOn_change, Files.Tree.write] at h
  cases ht : files.target path with
  | error error =>
    rw [ht] at h
    cases h
  | ok found => exact ⟨found.1, Files.Tree.leads_of_target ht⟩

/-- A text that was written is all that its file holds. -/
theorem written_of_write {text : String} (h : (write path text).runOn files = (.ok (), after)) :
    ∃ place, after.Leads path place ∧ after.node? place = some (.file text.toUTF8) := by
  obtain ⟨place, hl⟩ := leads_of_write h
  rw [runOn_write_of_leads hl] at h
  cases h
  exact ⟨place, hl.of_sameDirectories (Files.Tree.sameDirectories_edit
    (e := ⟨place, fun _ => text.toUTF8⟩) hl.2), Files.Tree.node?_edit_self hl.2⟩

/-- A value without a number that is too long is written whole. -/
theorem writeJson_of_isShort {value : Json} (h : value.IsShort) (path : String) :
    writeJson path value = write path value.indented := by
  rw [writeJson, Json.cut?_eq_none_iff.mpr h]

theorem writeJson_of_cut {value : Json} {text : String} (h : value.cut? = some text)
    (path : String) :
    writeJson path value = (do
      write path text
      throw .tooManyDigits) := by
  rw [writeJson, h]

/-- Writing comes to its end only with the whole value. -/
theorem isShort_of_writeJson {value : Json}
    (h : (writeJson path value).runOn files = (.ok (), after)) : value.IsShort := by
  rw [← Json.cut?_eq_none_iff]
  cases hc : value.cut? with
  | none => rfl
  | some text =>
    rw [writeJson_of_cut hc] at h
    obtain ⟨_, _, _, hthrow⟩ := ok_of_bind h
    cases hthrow

theorem written_of_writeJson {value : Json}
    (h : (writeJson path value).runOn files = (.ok (), after)) :
    ∃ place, after.Leads path place ∧ after.node? place = some (.file value.indented.toUTF8) := by
  rw [writeJson_of_isShort (isShort_of_writeJson h)] at h
  exact written_of_write h

end FileTask

namespace DeskTask

variable {task : DeskTask α} {next : α → DeskTask β} {outcome : Except Fault α}
variable {finish : Except Fault β}

/-- What a task makes of the files and how it ends, whatever else is on the desk. -/
def Ends (task : DeskTask α) (files : Files.Tree) (outcome : Except Fault α)
    (after : Files.Tree) : Prop :=
  ∀ desk : Desk, desk.files = files →
    (task.runAt desk).1 = outcome ∧ (task.runAt desk).2.files = after

theorem ends_pure (value : α) (files : Files.Tree) :
    (pure value : DeskTask α).Ends files (.ok value) files :=
  fun _ h => ⟨rfl, h⟩

theorem ends_throw (fault : Fault) (files : Files.Tree) :
    (throw fault : DeskTask α).Ends files (.error fault) files :=
  fun _ h => ⟨rfl, h⟩

theorem ends_attempt (result : Except Fault α) (files : Files.Tree) :
    (attempt result).Ends files result files := by
  cases result with
  | ok value => exact ends_pure value files
  | error fault => exact ends_throw fault files

theorem ends_showLine (text : String) (files : Files.Tree) :
    (showLine text).Ends files (.ok ()) files :=
  fun _ h => ⟨rfl, h⟩

theorem runAt_bind (task : DeskTask α) (next : α → DeskTask β) (desk : Desk) :
    (task >>= next).runAt desk =
      match task.runAt desk with
      | (.ok value, after) => (next value).runAt after
      | (.error fault, after) => (.error fault, after) := by
  unfold runAt
  rw [ExceptT.run_bind, StateT.run_bind]
  rcases task.run.run desk with ⟨_ | _, _⟩ <;> rfl

theorem Ends.runAt_eq {desk : Desk} (h : task.Ends files outcome after) (hd : desk.files = files) :
    ∃ middle, task.runAt desk = (outcome, middle) ∧ middle.files = after := by
  obtain ⟨rfl, rfl⟩ := h desk hd
  exact ⟨_, rfl, rfl⟩

theorem Ends.bind (h : task.Ends files (.ok value) after)
    (h' : (next value).Ends after finish last) : (task >>= next).Ends files finish last := by
  intro desk hd
  obtain ⟨middle, hr, hm⟩ := h.runAt_eq hd
  rw [runAt_bind, hr]
  exact h' middle hm

theorem Ends.bind_error (h : task.Ends files (.error fault) after) :
    (task >>= next).Ends files (.error fault) after := by
  intro desk hd
  obtain ⟨middle, hr, hm⟩ := h.runAt_eq hd
  rw [runAt_bind, hr]
  exact ⟨rfl, hm⟩

theorem Ends.map (f : α → β) (h : task.Ends files outcome after) :
    (f <$> task).Ends files (outcome.map f) after := by
  intro desk hd
  obtain ⟨ho, hf⟩ := h desk hd
  have hm : (f <$> task).runAt desk = ((task.runAt desk).1.map f, (task.runAt desk).2) := by
    rw [← bind_pure_comp, runAt_bind]
    rcases task.runAt desk with ⟨_ | _, _⟩ <;> rfl
  rw [hm]
  exact ⟨congrArg (Except.map f) ho, hf⟩

theorem runAt_tryCatch (task : DeskTask α) (handle : Fault → DeskTask α) (desk : Desk) :
    (tryCatch task handle).runAt desk =
      match task.runAt desk with
      | (.ok value, after) => (.ok value, after)
      | (.error fault, after) => (handle fault).runAt after := by
  unfold runAt
  simp only [tryCatch, tryCatchThe, MonadExceptOf.tryCatch, ExceptT.tryCatch, ExceptT.run_mk,
    StateT.run_bind]
  have h : StateT.run task desk = task.runAt desk := rfl
  have h' : StateT.run (ExceptT.run task) desk = task.runAt desk := rfl
  rw [h, h']
  rcases task.runAt desk with ⟨_ | _, _⟩ <;> rfl

theorem Ends.tryCatch_ok {handle : Fault → DeskTask α} (h : task.Ends files (.ok value) after) :
    (tryCatch task handle).Ends files (.ok value) after := by
  intro desk hd
  obtain ⟨middle, hr, hm⟩ := h.runAt_eq hd
  rw [runAt_tryCatch, hr]
  exact ⟨rfl, hm⟩

theorem Ends.tryCatch_error {handle : Fault → DeskTask α}
    (h : task.Ends files (.error fault) after) (h' : (handle fault).Ends after outcome last) :
    (tryCatch task handle).Ends files outcome last := by
  intro desk hd
  obtain ⟨middle, hr, hm⟩ := h.runAt_eq hd
  rw [runAt_tryCatch, hr]
  exact h' middle hm

theorem runAt_onFiles (work : FileTask α) (desk : Desk) :
    (onFiles work).runAt desk =
      ((work.runOn desk.files).1, { desk with files := (work.runOn desk.files).2 }) := by
  have hg : (get : DeskTask Desk).runAt desk = (.ok desk, desk) := rfl
  unfold onFiles
  rw [runAt_bind, hg]
  simp only
  rcases work.runOn desk.files with ⟨_ | _, _⟩ <;> rfl

theorem ends_onFiles {work : FileTask α} (h : work.runOn files = (outcome, after)) :
    (onFiles work).Ends files outcome after := by
  rintro desk rfl
  rw [runAt_onFiles, h]
  exact ⟨rfl, rfl⟩

/-- However a task ends, its files are such afterwards. -/
def Reaches (task : DeskTask α) (files : Files.Tree) (P : Files.Tree → Prop) : Prop :=
  ∃ outcome after, task.Ends files outcome after ∧ P after

variable {P : Files.Tree → Prop}

theorem Reaches.of_ends (h : task.Ends files outcome after) (hP : P after) :
    task.Reaches files P :=
  ⟨outcome, after, h, hP⟩

/-- After a task whose files are such in any case there is only its value to be looked at. -/
theorem Reaches.bind (h : task.Ends files outcome after) (hP : P after)
    (h' : ∀ value, outcome = .ok value → (next value).Reaches after P) :
    (task >>= next).Reaches files P := by
  cases outcome with
  | error fault => exact ⟨.error fault, after, h.bind_error, hP⟩
  | ok value =>
    obtain ⟨finish, last, h', hP⟩ := h' value rfl
    exact ⟨finish, last, h.bind h', hP⟩

theorem Reaches.bind_ok (h : task.Ends files (.ok value) after)
    (h' : (next value).Reaches after P) : (task >>= next).Reaches files P := by
  obtain ⟨finish, last, h', hP⟩ := h'
  exact ⟨finish, last, h.bind h', hP⟩

theorem Reaches.bind_error (h : task.Ends files (.error fault) after) (hP : P after) :
    (task >>= next).Reaches files P :=
  ⟨.error fault, after, h.bind_error, hP⟩

end DeskTask

end TapeMachine
