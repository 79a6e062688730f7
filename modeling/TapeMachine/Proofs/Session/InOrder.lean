import TapeMachine.Proofs.Session.Drafts
import TapeMachine.Proofs.Session.Menus

namespace TapeMachine.Session

open DeskTask

variable {session : Session} {first settings : Settings}

/-- The settings of a session that began with some: they are valid, and can be written if those
could. -/
structure Sound (first settings : Settings) : Prop where
  valid : settings.Valid
  short : (Json.obj first.fields).IsShort → (Json.obj settings.fields).IsShort

/-- The settings are sound, and a session at the menu could show it. -/
structure InOrder (first : Settings) (session : Session) : Prop where
  sound : Sound first session.settings
  line : session.query = .choice → ∀ line ∈ session.sourceLine?, (Console.plain line).isOk

/-- A session that goes on is in order. -/
def OnlyInOrder (first : Settings) : Stage Session → Prop
  | .ended _ => True
  | .asking session => session.InOrder first

/-- A session with the same settings. -/
def Keeps (session : Session) (after : Session) : Prop :=
  after.settings = session.settings

theorem gives_ask (h : Sound first session.settings) {query : Query} (hq : query ≠ .choice) :
    (session.ask query).Gives (OnlyInOrder first) :=
  gives_pure ⟨h, fun he => absurd he hq⟩

/-- A menu that was shown can be. -/
theorem gives_toMenu (h : Sound first session.settings) :
    session.toMenu.Gives (OnlyInOrder first) := by
  rw [toMenu_eq]
  refine (gives_forM gives_showMarked).bind fun _ htexts => gives_pure ⟨h, fun _ line hl => ?_⟩
  have hmem : line ∈ session.menuTexts :=
    List.mem_cons_of_mem _ (List.mem_append_left _ (Option.mem_toList.mpr hl))
  exact htexts line hmem

theorem keeps_toMenu (h : Sound first session.settings) {task : DeskTask Session}
    (ht : task.Gives session.Keeps) : (task >>= toMenu).Gives (OnlyInOrder first) :=
  ht.bind fun after hk => gives_toMenu (by rw [hk]; exact h)

theorem gives_load (session : Session) (path : Text.Wording) :
    (session.load path).Gives session.Keeps :=
  gives_bind fun _ => gives_pure rfl

theorem gives_follow (session : Session) (machine : Machine) (known : Nat) :
    (session.follow machine known).Gives session.Keeps :=
  gives_bind fun _ => gives_pure rfl

theorem gives_prepare (session : Session) : session.prepare.Gives session.Keeps := by
  refine gives_bind fun _ => ?_
  split
  next => exact gives_bind fun _ => gives_pure rfl
  next machine _ =>
    refine gives_bind fun _ => (gives_follow _ _ _).bind fun after hk => ?_
    exact gives_bind fun _ => gives_pure hk

theorem gives_step (session : Session) : session.step.Gives session.Keeps := by
  unfold step
  split
  next => exact gives_prepare session
  next machine _ =>
    refine (gives_follow _ _ _).bind fun after hk => ?_
    exact gives_bind fun _ => gives_bind fun _ => gives_pure hk

theorem gives_runAt (session : Session) (machine : Machine) (speed : Int) :
    (session.runAt machine speed).Gives session.Keeps := by
  unfold runAt
  refine gives_bind fun _ => ?_
  split
  next => exact gives_pure rfl
  next pacer _ =>
    refine gives_bind fun now => ?_
    rcases pacer.runFor session.settings.maxSteps now.interruptIn with ⟨ending, interruptIn, paced⟩
    refine gives_bind fun _ => (gives_follow _ _ _).bind fun after hk => ?_
    simp only
    split
    next =>
      refine gives_bind fun _ => ?_
      split
      next => exact gives_pure hk
      next => exact gives_bind fun _ => gives_pure hk
    next =>
      split
      next => exact gives_pure hk
      next => exact gives_bind fun _ => gives_pure hk

theorem gives_loadProgram (h : Sound first session.settings) (path : Text.Wording) :
    (session.loadProgram path).Gives (OnlyInOrder first) := by
  refine gives_bind fun found => ?_
  split
  next =>
    refine (gives_load session path).bind fun loaded hl => gives_bind fun _ => ?_
    have hv : Sound first loaded.settings := by rwa [hl]
    exact keeps_toMenu hv (gives_prepare loaded)
  next => exact gives_bind fun _ => gives_toMenu h

theorem gives_beginRun (h : Sound first session.settings) :
    session.beginRun.Gives (OnlyInOrder first) := by
  have hgo : ∀ (ready : Session) (machine : Machine), Sound first ready.settings →
      (if machine.halted then do
          showMarked "[yellow]Machine already halted. Reset to run again.[/yellow]"
          ready.toMenu
        else ready.ask .speed).Gives (OnlyInOrder first) := by
    intro ready machine hv
    split
    next => exact gives_bind fun _ => gives_toMenu hv
    next => exact gives_ask hv nofun
  unfold beginRun
  split
  next =>
    refine (gives_prepare session).bind fun ready hk => ?_
    have hv : Sound first ready.settings := by rwa [hk]
    simp only
    split
    next => exact gives_toMenu hv
    next machine _ => exact hgo ready machine hv
  next =>
    refine (gives_pure (P := fun ready => ready = session) rfl).bind fun ready hk => ?_
    subst hk
    simp only
    split
    next => exact gives_toMenu h
    next machine _ => exact hgo ready machine h

theorem gives_run (h : Sound first session.settings) (speed : Int) :
    (session.run speed).Gives (OnlyInOrder first) := by
  unfold run
  split
  next => exact gives_toMenu h
  next machine _ => exact keeps_toMenu h (gives_runAt session machine speed)

theorem gives_showGraph (h : Sound first session.settings) :
    session.showGraph.Gives (OnlyInOrder first) := by
  unfold showGraph
  split
  next => exact gives_bind fun _ => gives_toMenu h
  next => exact gives_bind fun _ => gives_ask h nofun

theorem gives_writeGraph (h : Sound first session.settings) (layout : StateGraph.Layout)
    (path : String) : (session.writeGraph layout path).Gives (OnlyInOrder first) :=
  gives_bind fun _ => gives_bind fun _ => gives_toMenu h

theorem gives_beginHelp (h : Sound first session.settings) :
    session.beginHelp.Gives (OnlyInOrder first) :=
  gives_bind fun _ => gives_bind fun _ => gives_ask h nofun

theorem gives_invalidChoice (h : Sound first session.settings) :
    session.invalidChoice.Gives (OnlyInOrder first) :=
  gives_bind fun _ => gives_toMenu h

theorem gives_chooseTopic (h : Sound first session.settings) (index : Int) :
    (session.chooseTopic index).Gives (OnlyInOrder first) := by
  unfold chooseTopic
  split
  next => exact gives_invalidChoice h
  next => exact gives_bind fun _ => gives_ask h nofun

theorem gives_chooseQuestion (h : Sound first session.settings) (topic : Help.Topic) (index : Int) :
    (session.chooseQuestion topic index).Gives (OnlyInOrder first) := by
  unfold chooseQuestion
  split
  next => exact gives_invalidChoice h
  next => exact gives_bind fun _ => gives_bind fun _ => gives_toMenu h

theorem gives_beginEdit (h : Sound first session.settings) :
    session.beginEdit.Gives (OnlyInOrder first) :=
  gives_bind fun _ => gives_ask h nofun

theorem gives_finishEdit (h : Sound first session.settings) (draft : Settings) :
    (session.finishEdit draft).Gives (OnlyInOrder first) := by
  rw [finishEdit_eq]
  refine (gives_storeDraft draft).bind fun refused hv => ?_
  cases refused with
  | some error => exact gives_bind fun _ => gives_toMenu h
  | none =>
    obtain ⟨hvalid, hshort⟩ := hv rfl
    exact gives_bind fun _ => gives_toMenu ⟨hvalid, fun _ => hshort⟩

theorem gives_edit (h : Sound first session.settings) (field : Edit) (draft : Settings)
    (line : String) : (session.edit field draft line).Gives (OnlyInOrder first) := by
  unfold edit
  split
  next => exact gives_ask h nofun
  next => exact gives_ask h nofun
  next draft _ => exact gives_finishEdit h draft

theorem gives_choose (h : Sound first session.settings) (choice : String) :
    (session.choose choice).Gives (OnlyInOrder first) := by
  unfold choose
  split
  next => exact gives_ask h nofun
  next => exact keeps_toMenu h (gives_prepare session)
  next => exact keeps_toMenu h (gives_step session)
  next => exact gives_beginRun h
  next => exact gives_showGraph h
  next => exact gives_beginHelp h
  next => exact gives_beginEdit h
  next => exact gives_bind fun _ => gives_pure trivial

theorem gives_withAnswer {α : Type} (h : session.InOrder first) (answer : Option α)
    {next : α → DeskTask (Stage Session)} (hn : ∀ answer, (next answer).Gives (OnlyInOrder first)) :
    (session.withAnswer answer next).Gives (OnlyInOrder first) := by
  cases answer with
  | none => exact gives_pure h
  | some answer => exact hn answer

/-- Whatever a session in order is told, it stays in order. -/
theorem gives_respond (h : session.InOrder first) (line : String) :
    (session.respond line).Gives (OnlyInOrder first) := by
  have hv := h.sound
  unfold respond
  split
  next => exact gives_withAnswer h _ (gives_choose hv)
  next => exact gives_loadProgram hv _
  next => exact gives_withAnswer h _ (gives_run hv)
  next layout _ =>
    refine gives_withAnswer h _ fun wanted => ?_
    cases wanted with
    | true => exact gives_ask hv nofun
    | false => exact gives_toMenu hv
  next layout _ => exact gives_writeGraph hv layout _
  next => exact gives_withAnswer h _ (gives_chooseTopic hv)
  next topic _ => exact gives_withAnswer h _ (gives_chooseQuestion hv topic)
  next field draft _ => exact gives_edit hv field draft line

theorem gives_start (h : Sound first settings) :
    (start settings).Gives (OnlyInOrder first) := by
  refine gives_bind fun now => gives_bind fun _ => gives_bind fun found => ?_
  split
  next => exact keeps_toMenu h (gives_load _ _)
  next => exact gives_toMenu h

theorem gives_after {stage : Stage Session} (h : OnlyInOrder first stage) (lines : List String) :
    (stage.after respond lines).Gives (OnlyInOrder first) := by
  induction lines generalizing stage with
  | nil =>
    rw [Stage.after_nil]
    exact gives_pure h
  | cons line lines ih =>
    cases stage with
    | ended code =>
      rw [Stage.after_ended]
      exact gives_pure trivial
    | asking session => exact (gives_respond h line).bind fun _ => ih

/-- A session that begins with some settings, after some lines. -/
def heard (settings : Settings) (lines : List String) : DeskTask (Stage Session) := do
  (← start settings).after respond lines

theorem gives_heard (h : settings.Valid) (lines : List String) :
    (heard settings lines).Gives (OnlyInOrder settings) :=
  (gives_start ⟨h, id⟩).bind fun _ hs => gives_after hs lines

end TapeMachine.Session
