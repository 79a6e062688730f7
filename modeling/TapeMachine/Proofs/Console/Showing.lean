import TapeMachine.Proofs.Files.Tasks

namespace TapeMachine

/-- The desk with more shown on it. -/
def Desk.showing (desk : Desk) (items : List Shown) : Desk :=
  { desk with shown := desk.shown ++ items }

@[simp]
theorem Desk.showing_nil (desk : Desk) : desk.showing [] = desk := by
  simp [showing]

@[simp]
theorem Desk.showing_showing (desk : Desk) (items more : List Shown) :
    (desk.showing items).showing more = desk.showing (items ++ more) := by
  have h : desk.shown ++ items ++ more = desk.shown ++ (items ++ more) :=
    Array.toList_inj.mp (by simp only [Array.toList_appendList, List.append_assoc])
  exact congrArg (fun shown => { desk with shown }) h

theorem eq_ok_of_toOption {ε α : Type} {result : Except ε α} {value : α}
    (h : result.toOption = some value) : result = .ok value := by
  cases result with
  | error error => cases h
  | ok other => exact congrArg Except.ok (Option.some.inj h)

namespace DeskTask

variable {α β : Type} {task : DeskTask α} {next : α → DeskTask β} {value : α} {result : β}
variable {items more : List Shown} {desk mid : Desk} {fault : Fault}

theorem runAt_pure (value : α) (desk : Desk) :
    (pure value : DeskTask α).runAt desk = (.ok value, desk) := rfl

theorem runAt_get (desk : Desk) : (get : DeskTask Desk).runAt desk = (.ok desk, desk) := rfl

theorem runAt_bind_ok (h : task.runAt desk = (.ok value, mid)) :
    (task >>= next).runAt desk = (next value).runAt mid := by
  rw [runAt_bind, h]

theorem runAt_bind_error (h : task.runAt desk = (.error fault, mid)) :
    (task >>= next).runAt desk = (.error fault, mid) := by
  rw [runAt_bind, h]

/-- A task that gives a value and shows something, and does nothing else. -/
def Shows (task : DeskTask α) (items : List Shown) (value : α) : Prop :=
  ∀ desk, task.runAt desk = (.ok value, desk.showing items)

theorem shows_pure (value : α) : (pure value : DeskTask α).Shows [] value := by
  intro desk
  rw [runAt_pure, Desk.showing_nil]

theorem shows_attempt_ok (value : α) : (attempt (.ok value)).Shows [] value :=
  shows_pure value

theorem shows_showAll (items : List Shown) : (showAll items).Shows items () :=
  fun _ => rfl

theorem shows_showLine (text : String) : (showLine text).Shows [.text text] () :=
  shows_showAll _

theorem shows_showPlain (text : String) :
    (showPlain text).Shows [.text (Console.visible text)] () :=
  fun _ => rfl

theorem Shows.bind (h : task.Shows items value) (h' : (next value).Shows more result) :
    (task >>= next).Shows (items ++ more) result := by
  intro desk
  rw [runAt_bind_ok (h desk), h', Desk.showing_showing]

theorem shows_showMarked {text shown : String} (h : Console.plain text = .ok shown) :
    (showMarked text).Shows [.text shown] () := by
  rw [showMarked, h, mapError_ok]
  exact (shows_attempt_ok shown).bind (shows_showAll _)

theorem runAt_showMarked {text : String} (h : (Console.plain text).isOk) (desk : Desk) :
    ∃ shown, (showMarked text).runAt desk = (.ok (), desk.showing [.text shown]) := by
  cases hp : Console.plain text with
  | error error =>
    rw [hp] at h
    cases h
  | ok shown => exact ⟨shown, shows_showMarked hp desk⟩

theorem shows_forM {texts : List α} {work : α → DeskTask Unit} {shown : α → Shown}
    (h : ∀ text ∈ texts, (work text).Shows [shown text] ()) :
    (texts.forM work).Shows (texts.map shown) () := by
  induction texts with
  | nil => exact shows_pure ()
  | cons text texts ih =>
    have hrest := ih fun other ho => h other (List.mem_cons_of_mem text ho)
    exact (h text List.mem_cons_self).bind hrest

theorem ok_of_bind (h : (task >>= next).runAt desk = (.ok result, mid)) :
    ∃ value before, task.runAt desk = (.ok value, before) ∧
      (next value).runAt before = (.ok result, mid) := by
  rw [runAt_bind] at h
  rcases ht : task.runAt desk with ⟨_ | value, before⟩
  · rw [ht] at h
    cases h
  · rw [ht] at h
    exact ⟨value, before, rfl, h⟩

/-- If a task comes to its end, its value is such. -/
def Gives (task : DeskTask α) (P : α → Prop) : Prop :=
  ∀ desk value after, task.runAt desk = (.ok value, after) → P value

variable {P : β → Prop} {Q : α → Prop}

theorem gives_pure (h : P result) : (pure result : DeskTask β).Gives P := by
  intro desk value after hr
  rw [runAt_pure] at hr
  cases hr
  exact h

theorem Gives.mono {P : α → Prop} (h : task.Gives Q) (h' : ∀ value, Q value → P value) :
    task.Gives P :=
  fun desk value after hr => h' value (h desk value after hr)

theorem Gives.bind (h : task.Gives Q) (h' : ∀ value, Q value → (next value).Gives P) :
    (task >>= next).Gives P := by
  intro desk value after hr
  obtain ⟨first, mid, hf, hn⟩ := ok_of_bind hr
  exact h' first (h desk first mid hf) mid value after hn

/-- What a task gives may be up to its last part alone. -/
theorem gives_bind (h : ∀ value, (next value).Gives P) : (task >>= next).Gives P := by
  intro desk value after hr
  obtain ⟨first, mid, _, hn⟩ := ok_of_bind hr
  exact h first mid value after hn

/-- A text with marks that was shown can be. -/
theorem gives_showMarked (text : String) :
    (showMarked text).Gives fun _ => (Console.plain text).isOk := by
  intro desk value after hr
  cases hp : Console.plain text with
  | ok shown => rfl
  | error error =>
    rw [showMarked, hp] at hr
    cases hr

theorem gives_forM {items : List α} {work : α → DeskTask Unit}
    (h : ∀ item, (work item).Gives fun _ => Q item) :
    (items.forM work).Gives fun _ => ∀ item ∈ items, Q item := by
  induction items with
  | nil => exact gives_pure nofun
  | cons item items ih =>
    exact (h item).bind fun _ hq => ih.mono fun _ hrest => List.forall_mem_cons.mpr ⟨hq, hrest⟩

end DeskTask

end TapeMachine
