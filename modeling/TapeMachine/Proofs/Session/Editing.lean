import TapeMachine.Proofs.Session.InOrder

namespace TapeMachine.Session

open DeskTask

variable {session : Session} {first settings draft : Settings} {desk : Desk}

/-- After an edit that is not stored, and told so, the session is as it was. -/
theorem runAt_finishEdit_kept (h : session.InOrder first) (hq : session.query = .choice)
    {fault : Fault} {after : Desk}
    (hs : (storeDraft draft).runAt desk = (.ok (some fault), after))
    (hp : (Console.plain s!"[red]Configuration not saved: {fault.message}[/red]").isOk) :
    ∃ shown, (session.finishEdit draft).runAt desk = (.ok (.asking session), after.showing shown) := by
  obtain ⟨shown, hshown⟩ := runAt_showMarked hp after
  refine ⟨[.text shown] ++ session.menu, ?_⟩
  rw [finishEdit_eq, runAt_bind_ok hs, closeEdit, runAt_bind_ok hshown, shows_toMenu (h.line hq),
    Desk.showing_showing, ← hq]

/-- After one that is accepted the session has the settings that are stored. -/
theorem runAt_finishEdit_ok (h : session.InOrder first) (hq : session.query = .choice)
    {after : Desk} (hs : (storeDraft draft).runAt desk = (.ok none, after)) :
    ∃ shown, (session.finishEdit draft).runAt desk =
      (.ok (.asking { session with settings := draft }), after.showing shown) := by
  obtain ⟨shown, hshown⟩ := runAt_showMarked isOk_updated after
  refine ⟨[.text shown] ++ menu { session with settings := draft }, ?_⟩
  have hline : ∀ line ∈ sourceLine? { session with settings := draft }, (Console.plain line).isOk :=
    h.line hq
  rw [finishEdit_eq, runAt_bind_ok hs, closeEdit, runAt_bind_ok hshown, shows_toMenu hline,
    Desk.showing_showing, ← hq]

/-- Wherever a session gets to that began with valid settings, it has valid ones. An edit at the
menu whose answers make no valid settings changes neither them nor a file. One whose answers do
stores them, so that the session has the settings in the file, and keeps all that it did not ask
for; if the file system refuses them, the session is over. A number with too many digits to be
written must have been there when the session began, and the session keeps what it had. -/
theorem settings_valid_and_stored {lines : List String} {now : Desk} (h : settings.Valid)
    (hs : (heard settings lines).runAt desk = (.ok (.asking session), now)) :
    session.settings.Valid ∧
      ∀ line answers draft, session.query = .choice →
        Console.choiceAnswer? choices "8" line = some "7" →
        draftOf .speed session.settings answers = some draft →
        let run := (Stage.after respond (.asking session) (line :: answers)).runAt now
        Settings.SameBut Settings.asked session.settings draft ∧
        (¬draft.Valid → ∃ shown, run = (.ok (.asking session), now.showing shown)) ∧
        (draft.Valid →
          match (draft.save Settings.defaultPath).runOn now.files with
          | (.ok (), files) =>
            draft.StoredIn Settings.defaultPath files ∧
              ∃ shown, run = (.ok (.asking { session with settings := draft }),
                { now with files }.showing shown)
          | (.error .tooManyDigits, files) =>
            ¬(Json.obj settings.fields).IsShort ∧ ¬(Json.obj draft.fields).IsShort ∧
              ∃ shown, run = (.ok (.asking session), { now with files }.showing shown)
          | (.error fault, files) =>
            ∃ shown, run = (.error fault, { now with files }.showing shown)) := by
  have horder : session.InOrder settings := gives_heard h lines desk _ now hs
  refine ⟨horder.sound.valid, fun line answers draft hq hl hd => ?_⟩
  intro run
  have hrun : run = _ := runAt_edit hq hl hd now
  rw [hrun]
  have hsame := draftOf_invariant edited_of_editWith? (Settings.edited_refl _) hd
  refine ⟨hsame.sameBut, fun hv => ?_, fun hv => ?_⟩
  · rw [Settings.valid_iff] at hv
    obtain ⟨error, he⟩ := Option.ne_none_iff_exists'.mp hv
    obtain ⟨shown, hend⟩ :=
      runAt_finishEdit_kept horder hq (runAt_storeDraft_refused he _) (isOk_refused he)
    exact ⟨_, by rw [hend, Desk.showing_showing]⟩
  · -- The title of the edit is shown before, and leaves the files alone.
    have hstore := runAt_storeDraft draft (now.showing [.text "\nEdit Configuration"])
    have hfiles : (now.showing [.text "\nEdit Configuration"]).files = now.files := rfl
    rw [hfiles] at hstore
    rcases hsave : (draft.save Settings.defaultPath).runOn now.files with ⟨fault | _, files⟩
    · rw [hsave] at hstore
      obtain ⟨error, rfl⟩ | ⟨rfl, hlong⟩ := Settings.fault_of_save hv hsave
      · refine ⟨[.text "\nEdit Configuration"], ?_⟩
        rw [finishEdit_eq, runAt_bind_error hstore]
        rfl
      · have hfirst : ¬(Json.obj settings.fields).IsShort := fun hf =>
          hlong (draftOf_invariant isShort_of_editWith? (horder.sound.short hf) hd)
        obtain ⟨shown, hend⟩ := runAt_finishEdit_kept horder hq hstore isOk_cut
        refine ⟨hfirst, hlong, [.text "\nEdit Configuration"] ++ shown, ?_⟩
        rw [hend, ← Desk.showing_showing]
        rfl
    · rw [hsave] at hstore
      obtain ⟨shown, hend⟩ := runAt_finishEdit_ok horder hq hstore
      refine ⟨Settings.storedIn_of_save hsave, [.text "\nEdit Configuration"] ++ shown, ?_⟩
      rw [hend, ← Desk.showing_showing]
      rfl

/-- A session begins at the menu if there is no default program and nothing is logged on disk. -/
theorem runAt_start (h : settings.logSteps = false)
    (hl : (FileTask.lookUp settings.defaultProgram).runOn desk.files = (.ok false, desk.files)) :
    (start settings).runAt desk =
      (.ok (.asking { settings, journal := settings.journal desk.day }),
        desk.showing (menu { settings, journal := settings.journal desk.day })) := by
  have hstart : (onFiles (settings.journal desk.day).start).runAt desk = (.ok (), desk) := by
    rw [Journal.start, Settings.journal, h]
    rfl
  have hlook : (onFiles (FileTask.lookUp settings.defaultProgram)).runAt desk =
      (.ok false, desk) := by
    rw [runAt_onFiles, hl]
  unfold start
  rw [runAt_bind_ok (runAt_get desk), runAt_bind_ok hstart, runAt_bind_ok hlook, if_neg (by decide)]
  exact shows_toMenu (fun line hl => by cases hl) desk

/-- An edit is refused for a speed of zero, and one that asks twice for the speed is accepted. -/
theorem settings_valid_and_stored_twice :
    let settings : Settings := { logSteps := false, others := [("theme", .str "dark")] }
    let desk : Desk := { files := ⟨[(["notes"], .file .empty)]⟩, day := "2026-01-01" }
    let refused := ["0", "", "", "", "", ""]
    let accepted := ["fast", "80", "", "", "y", "", " q1 "]
    let draft := { settings with speed := 80, logSteps := true, graphStartState := "q1" }
    settings.Valid ∧ ∃ session now, (heard settings []).runAt desk = (.ok (.asking session), now) ∧
      session.settings = settings ∧
      (∃ shown, (Stage.after respond (.asking session) ("7" :: refused)).runAt now =
        (.ok (.asking session), now.showing shown)) ∧
      ∃ files shown, (Stage.after respond (.asking session) ("7" :: accepted)).runAt now =
          (.ok (.asking { session with settings := draft }), { now with files }.showing shown) ∧
        draft.StoredIn Settings.defaultPath files ∧
        draft.fields.get? "theme" = some (.str "dark") := by
  intro settings desk refused accepted draft
  have hvalid : settings.Valid := ⟨_, rfl⟩
  have hlook : (FileTask.lookUp settings.defaultProgram).runOn desk.files = (.ok false, desk.files) := rfl
  have hstart := runAt_start rfl hlook
  have hheard : (heard settings []).runAt desk = _ := runAt_bind_ok hstart
  obtain ⟨-, hedit⟩ := settings_valid_and_stored hvalid hheard
  have hno : draftOf .speed settings refused = some { settings with speed := 0 } := rfl
  have hyes : draftOf .speed settings accepted = some draft := rfl
  obtain ⟨-, hrefused, -⟩ := hedit "7" refused _ rfl rfl hno
  obtain ⟨hsame, -, haccepted⟩ := hedit "7" accepted _ rfl rfl hyes
  have hbad : ¬Settings.Valid { settings with speed := 0 } := by
    rw [Settings.valid_iff]
    decide
  have hgood : draft.Valid := ⟨_, rfl⟩
  have hok : ((draft.save Settings.defaultPath).runOn desk.files).1.isOk = true := by decide +kernel
  rcases hsave : (draft.save Settings.defaultPath).runOn desk.files with ⟨fault | _, files⟩
  · rw [hsave] at hok
    cases hok
  · have hfiles : ∀ items, (draft.save Settings.defaultPath).runOn (desk.showing items).files =
        (.ok (), files) := fun _ => hsave
    rw [hfiles] at haccepted
    obtain ⟨hin, shown, hrun⟩ := haccepted hgood
    have htheme := hsame.get?_eq "theme" (by decide)
    exact ⟨hvalid, _, _, hheard, rfl, hrefused hbad, files, shown, hrun, hin, htheme⟩

end TapeMachine.Session
