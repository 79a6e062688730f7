import TapeMachine.Proofs.Files.Tasks

namespace TapeMachine

/-- Desks with the same files on the same day, at which nobody interrupts anything. What has been
shown may differ. -/
structure Desk.Alike (a b : Desk) : Prop where
  files : a.files = b.files
  day : a.day = b.day
  first : a.interruptIn = none
  second : b.interruptIn = none

theorem Desk.Alike.refl {desk : Desk} (h : desk.interruptIn = none) : desk.Alike desk :=
  ⟨rfl, rfl, h, h⟩

namespace DeskTask

variable {α β γ δ : Type}

/-- Two outcomes are the same fault, or values that belong together. -/
inductive Same (R : α → β → Prop) : Except Fault α → Except Fault β → Prop
  | ok {a : α} {b : β} (h : R a b) : Same R (.ok a) (.ok b)
  | error (fault : Fault) : Same R (.error fault) (.error fault)

theorem Same.eq {a b : Except Fault α} (h : Same Eq a b) : a = b := by
  cases h with
  | ok h => rw [h]
  | error => rfl

/-- Tasks that differ in what they show at most. -/
def Alike (R : α → β → Prop) (task : DeskTask α) (other : DeskTask β) : Prop :=
  ∀ a b : Desk, a.Alike b →
    Same R (task.runAt a).1 (other.runAt b).1 ∧ (task.runAt a).2.Alike (other.runAt b).2

variable {R : α → β → Prop} {S : γ → δ → Prop} {task : DeskTask α} {other : DeskTask β}
variable {next : α → DeskTask γ} {otherNext : β → DeskTask δ}

theorem Alike.bind (h : Alike R task other) (h' : ∀ a b, R a b → Alike S (next a) (otherNext b)) :
    Alike S (task >>= next) (other >>= otherNext) := by
  intro a b hab
  obtain ⟨hsame, hdesk⟩ := h a b hab
  rw [runAt_bind, runAt_bind]
  rcases hr : task.runAt a with ⟨result, after⟩
  rcases ho : other.runAt b with ⟨otherResult, otherAfter⟩
  rw [hr, ho] at hsame hdesk
  cases hsame with
  | ok hv => exact h' _ _ hv after otherAfter hdesk
  | error fault => exact ⟨.error fault, hdesk⟩

theorem Alike.andThen {task other : DeskTask α} {next : α → DeskTask γ} {otherNext : α → DeskTask δ}
    (h : Alike Eq task other) (h' : ∀ a, Alike S (next a) (otherNext a)) :
    Alike S (task >>= next) (other >>= otherNext) :=
  h.bind fun a _ he => he ▸ h' a

theorem alike_pure {a : α} {b : β} (h : R a b) : Alike R (pure a) (pure b) :=
  fun _ _ hab => ⟨.ok h, hab⟩

theorem alike_throw (R : α → β → Prop) (fault : Fault) : Alike R (throw fault) (throw fault) :=
  fun _ _ hab => ⟨.error fault, hab⟩

theorem alike_attempt (result : Except Fault α) : Alike Eq (attempt result) (attempt result) := by
  cases result with
  | ok value => exact alike_pure rfl
  | error fault => exact alike_throw _ fault

theorem alike_get : Alike Desk.Alike (get : DeskTask Desk) get :=
  fun _ _ hab => ⟨.ok hab, hab⟩

theorem alike_onFiles (work : FileTask α) : Alike Eq (onFiles work) (onFiles work) := by
  intro a b hab
  rw [runAt_onFiles, runAt_onFiles, ← hab.files]
  refine ⟨?_, rfl, hab.day, hab.first, hab.second⟩
  cases (work.runOn a.files).1 with
  | ok value => exact .ok rfl
  | error fault => exact .error fault

theorem alike_showAll (items otherItems : List Shown) :
    Alike Eq (showAll items) (showAll otherItems) :=
  fun _ _ hab => ⟨.ok rfl, hab.files, hab.day, hab.first, hab.second⟩

theorem alike_showLine (text otherText : String) :
    Alike Eq (showLine text) (showLine otherText) :=
  alike_showAll _ _

theorem alike_showMarked (text : String) : Alike Eq (showMarked text) (showMarked text) :=
  (alike_attempt _).andThen fun _ => alike_showLine _ _

theorem alike_forM {items : List α} {work otherWork : α → DeskTask Unit}
    (h : ∀ item ∈ items, Alike Eq (work item) (otherWork item)) :
    Alike Eq (items.forM work) (items.forM otherWork) := by
  induction items with
  | nil => exact alike_pure rfl
  | cons item items ih =>
    exact (h item List.mem_cons_self).andThen fun _ =>
      ih fun other ho => h other (List.mem_cons_of_mem _ ho)

end DeskTask

end TapeMachine
