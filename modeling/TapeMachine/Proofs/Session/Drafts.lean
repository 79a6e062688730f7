import TapeMachine.Proofs.Console.Coloring
import TapeMachine.Proofs.Session.Stages
import TapeMachine.Proofs.Settings.Saving
import TapeMachine.Proofs.Text.Numerals
import TapeMachine.Session.Menu

namespace TapeMachine.Session

open DeskTask

variable {session : Session} {settings draft : Settings} {desk : Desk}

/-- Stores edited settings, or tells why they cannot be. -/
def storeDraft (draft : Settings) : DeskTask (Option Fault) :=
  tryCatch
    (do
      onFiles (draft.save Settings.defaultPath)
      return none)
    fun fault =>
      match fault with
      | .settings _ | .tooManyDigits => return some fault
      | other => throw other

/-- What is done once it is known whether edited settings are stored. -/
def closeEdit (session : Session) (draft : Settings) : Option Fault → DeskTask (Stage Session)
  | some fault => do
    showMarked s!"[red]Configuration not saved: {fault.message}[/red]"
    session.toMenu
  | none => do
    showMarked "[green]Configuration updated successfully.[/green]"
    toMenu { session with settings := draft }

theorem finishEdit_eq (session : Session) (draft : Settings) :
    session.finishEdit draft = storeDraft draft >>= session.closeEdit draft := by
  unfold finishEdit
  refine congrArg (storeDraft draft >>= ·) (funext fun refused => ?_)
  cases refused <;> rfl

/-- Of what keeps settings from being stored only some is told. The rest ends the work. -/
theorem runAt_storeDraft (draft : Settings) (desk : Desk) :
    (storeDraft draft).runAt desk =
      match (draft.save Settings.defaultPath).runOn desk.files with
      | (.ok (), files) => (.ok none, { desk with files })
      | (.error (.settings error), files) => (.ok (some (.settings error)), { desk with files })
      | (.error .tooManyDigits, files) => (.ok (some .tooManyDigits), { desk with files })
      | (.error fault, files) => (.error fault, { desk with files }) := by
  rcases hs : (draft.save Settings.defaultPath).runOn desk.files with ⟨fault | _, files⟩
  · have hsave : (onFiles (draft.save Settings.defaultPath)).runAt desk =
        (.error fault, { desk with files }) := by
      rw [runAt_onFiles, hs]
    rw [storeDraft, runAt_tryCatch, runAt_bind_error hsave]
    cases fault <;> rfl
  · have hsave : (onFiles (draft.save Settings.defaultPath)).runAt desk =
        (.ok (), { desk with files }) := by
      rw [runAt_onFiles, hs]
    rw [storeDraft, runAt_tryCatch, runAt_bind_ok hsave]
    rfl

theorem runAt_storeDraft_refused {error : Settings.Error} (h : draft.rangeError? = some error)
    (desk : Desk) : (storeDraft draft).runAt desk = (.ok (some (.settings error)), desk) := by
  rw [runAt_storeDraft, Settings.runOn_save_refused h]

theorem saved_of_storeDraft {after : Desk}
    (h : (storeDraft draft).runAt desk = (.ok none, after)) :
    (draft.save Settings.defaultPath).runOn desk.files = (.ok (), after.files) := by
  rw [runAt_storeDraft] at h
  split at h <;> cases h
  assumption

/-- Only valid settings that can be written are stored without an objection. -/
theorem gives_storeDraft (draft : Settings) :
    (storeDraft draft).Gives fun refused =>
      refused = none → draft.Valid ∧ (Json.obj draft.fields).IsShort := by
  rintro desk _ after hr rfl
  have hs := saved_of_storeDraft hr
  refine ⟨?_, Settings.isShort_of_saveFields hs⟩
  rw [Settings.valid_iff]
  cases he : draft.rangeError? with
  | none => rfl
  | some error =>
    rw [Settings.runOn_save_refused he] at hs
    cases hs

/-- The settings that the answers to an edit's questions make; a line that is no answer is passed
over, and none but the last answers may be missing. -/
def draftOf : Edit → Settings → List String → Option Settings
  | _, _, [] => none
  | field, draft, line :: lines =>
    match editWith? draft line field with
    | none => draftOf field draft lines
    | some (draft, some next) => draftOf next draft lines
    | some (draft, none) => if lines = [] then some draft else none

theorem edited_of_editWith? {field : Edit} {line : String} {next : Option Edit} {after : Settings}
    (h : settings.Edited draft) (he : editWith? draft line field = some (after, next)) :
    settings.Edited after := by
  have hs := h
  unfold Settings.Edited at hs ⊢
  cases field
  all_goals
    simp only [editWith?, Option.map_eq_some_iff, Option.some.injEq, Prod.mk.injEq] at he
  case defaultProgram | graphStartState =>
    obtain ⟨rfl, -⟩ := he
    rw [hs]
  all_goals
    obtain ⟨_, _, rfl, -⟩ := he
    rw [hs]

/-- What every answer keeps is kept by the answers to an edit. -/
theorem draftOf_invariant {P : Settings → Prop} {field : Edit} {lines : List String}
    {final : Settings}
    (hstep : ∀ {field line draft next after}, P draft →
      editWith? draft line field = some (after, next) → P after)
    (h : P draft) (hd : draftOf field draft lines = some final) : P final := by
  induction lines generalizing field draft with
  | nil => cases hd
  | cons line lines ih =>
    unfold draftOf at hd
    split at hd
    next => exact ih h hd
    next he => exact ih (hstep h he) hd
    next he =>
      split at hd
      · cases hd
        exact hstep h he
      · cases hd

theorem isShort_of_integerAnswer? {default n : Int} {line : String} (h : (Json.int default).IsShort)
    (ha : Console.integerAnswer? (some default) line = some n) : (Json.int n).IsShort := by
  unfold Console.integerAnswer? Console.answer? at ha
  split at ha
  · cases ha
    exact h
  · exact Json.isShort_int_iff.mpr (Json.isTooLong_int_eq_false_iff.mpr (Text.integer?_lt ha))

/-- No answer makes settings too long to be written. -/
theorem isShort_of_editWith? {field : Edit} {line : String} {next : Option Edit} {after : Settings}
    (h : (Json.obj draft.fields).IsShort) (he : editWith? draft line field = some (after, next)) :
    (Json.obj after.fields).IsShort := by
  rw [Settings.isShort_fields_iff] at h ⊢
  obtain ⟨⟨hspeed, hsteps, hwindow⟩, hothers⟩ := h
  cases field
  all_goals
    simp only [editWith?, Option.map_eq_some_iff, Option.some.injEq, Prod.mk.injEq] at he
  case speed =>
    obtain ⟨n, ha, rfl, -⟩ := he
    exact ⟨⟨isShort_of_integerAnswer? hspeed ha, hsteps, hwindow⟩, hothers⟩
  case maxSteps =>
    obtain ⟨n, ha, rfl, -⟩ := he
    exact ⟨⟨hspeed, isShort_of_integerAnswer? hsteps ha, hwindow⟩, hothers⟩
  case tapeWindow =>
    obtain ⟨n, ha, rfl, -⟩ := he
    exact ⟨⟨hspeed, hsteps, isShort_of_integerAnswer? hwindow ha⟩, hothers⟩
  case logSteps =>
    obtain ⟨_, _, rfl, -⟩ := he
    exact ⟨⟨hspeed, hsteps, hwindow⟩, hothers⟩
  all_goals
    obtain ⟨rfl, -⟩ := he
    exact ⟨⟨hspeed, hsteps, hwindow⟩, hothers⟩

theorem after_edit {field : Edit} {lines : List String} {final : Settings}
    (hd : draftOf field draft lines = some final) :
    Stage.after respond (.asking { session with query := .edit field draft }) lines =
      session.finishEdit final := by
  induction lines generalizing field draft with
  | nil => cases hd
  | cons line lines ih =>
    -- The question that waits for the line is forgotten with the next one.
    have hrespond : Stage.after respond (.asking { session with query := .edit field draft })
        (line :: lines) = session.edit field draft line >>= (Stage.after respond · lines) := by
      rw [Stage.after, respond]
      rfl
    rw [hrespond, edit]
    rw [draftOf] at hd
    cases he : editWith? draft line field with
    | none =>
      rw [he] at hd
      exact (pure_bind _ _).trans (ih hd)
    | some answered =>
      obtain ⟨after, _ | next⟩ := answered
      · rw [he] at hd
        have hlines : lines = [] ∧ after = final := by simpa using hd
        have hlast : (Stage.after respond · []) = (pure : Stage Session → _) :=
          funext Stage.after_nil
        rw [hlines.1, hlines.2, hlast, bind_pure]
      · rw [he] at hd
        exact (pure_bind _ _).trans (ih hd)

theorem respond_edit (h : session.query = .choice) {line : String}
    (hl : Console.choiceAnswer? choices "8" line = some "7") :
    session.respond line = session.beginEdit := by
  rw [respond, h]
  simp only [hl]
  rfl

theorem plain_editTitle :
    (Console.plain "\n[bold]Edit Configuration[/bold]").toOption = some "\nEdit Configuration" := by
  decide +kernel

theorem isOk_updated :
    (Console.plain "[green]Configuration updated successfully.[/green]").isOk :=
  @Console.isOk_plain_inColor _ "Configuration updated successfully.".toList _
    Console.isColor_green (by decide) rfl

theorem isOk_refusal {fault : Fault}
    (h : Console.isUnmarked ("Configuration not saved: " ++ fault.message).toList = true) :
    (Console.plain s!"[red]Configuration not saved: {fault.message}[/red]").isOk := by
  refine @Console.isOk_plain_inColor _ _ _ Console.isColor_red h ?_
  change ("[red]Configuration not saved: " ++ fault.message ++ "[/red]").toList = _
  simp [Console.inColor]

theorem isOk_refused {error : Settings.Error} (h : draft.rangeError? = some error) :
    (Console.plain s!"[red]Configuration not saved: {(Fault.settings error).message}[/red]").isOk := by
  have hrange : error ∈ [.speedOutOfRange, .noSteps, .noWindow] := by
    unfold Settings.rangeError? at h
    repeat' split at h
    all_goals cases h
    all_goals decide
  have hmessage : ∀ error : Settings.Error, error ∈ [.speedOutOfRange, .noSteps, .noWindow] →
      Console.isUnmarked ("Configuration not saved: " ++ error.message).toList = true := by decide
  exact isOk_refusal (hmessage error hrange)

theorem isOk_cut :
    (Console.plain s!"[red]Configuration not saved: {Fault.tooManyDigits.message}[/red]").isOk :=
  isOk_refusal (by decide +kernel)

/-- An edit from its choice to its last answer. -/
theorem runAt_edit (h : session.query = .choice) {line : String}
    (hl : Console.choiceAnswer? choices "8" line = some "7") {answers : List String}
    (hd : draftOf .speed session.settings answers = some draft) (desk : Desk) :
    (Stage.after respond (.asking session) (line :: answers)).runAt desk =
      (session.finishEdit draft).runAt (desk.showing [.text "\nEdit Configuration"]) := by
  have hbegin : session.beginEdit.runAt desk =
      (.ok (.asking { session with query := .edit .speed session.settings }),
        desk.showing [.text "\nEdit Configuration"]) :=
    runAt_bind_ok (shows_showMarked (eq_ok_of_toOption plain_editTitle) desk)
  rw [Stage.after, respond_edit h hl, runAt_bind_ok hbegin, after_edit hd]

end TapeMachine.Session
