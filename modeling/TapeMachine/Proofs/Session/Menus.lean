import TapeMachine.Proofs.Console.Showing
import TapeMachine.Session.Menu

namespace TapeMachine.Session

open DeskTask

variable {session : Session}

/-- The menu's line about the source of the program. -/
def sourceLine? (session : Session) : Option String :=
  match session.sourceName with
  | none | some "" => none
  | some name => some s!"[gray]Program: {name}[/gray]"

def title : String := "\n[bold cyan]Turing Machine Simulator[/bold cyan]"

def menuTexts (session : Session) : List String :=
  title :: (session.sourceLine?.toList ++ menuLines)

def menu (session : Session) : List Shown :=
  session.menuTexts.map fun text => .text ((Console.plain text).toOption.getD "")

theorem plain_title : (Console.plain title).toOption = some "\nTuring Machine Simulator" := by
  decide +kernel

theorem plain_menuLines : ∀ line ∈ menuLines, (Console.plain line).toOption = some line := by
  decide +kernel

/-- Without a program the menu is the same for all sessions. -/
theorem menu_eq (h : session.sourceLine? = none) :
    session.menu = .text "\nTuring Machine Simulator" :: menuLines.map .text := by
  have hlines : menuLines.map (fun text => .text ((Console.plain text).toOption.getD "")) =
      menuLines.map Shown.text :=
    List.map_congr_left fun line hl => by rw [plain_menuLines line hl, Option.getD_some]
  rw [menu, menuTexts, h, List.map_cons, plain_title, Option.getD_some, Option.toList_none,
    List.nil_append, hlines]

theorem shows_texts {texts : List String} (h : ∀ text ∈ texts, (Console.plain text).isOk) :
    (texts.forM showMarked).Shows
      (texts.map fun text => .text ((Console.plain text).toOption.getD "")) () := by
  refine shows_forM fun text ht => ?_
  have hok := h text ht
  cases hp : Console.plain text with
  | error error =>
    rw [hp] at hok
    cases hok
  | ok shown => exact shows_showMarked hp

theorem toMenu_eq (session : Session) :
    session.toMenu = (session.menuTexts.forM showMarked >>= fun _ => session.ask .choice) := by
  cases h : session.sourceName with
  | none => simp [toMenu, menuTexts, sourceLine?, title, h]
  | some name =>
    by_cases hn : name = ""
    · simp [toMenu, menuTexts, sourceLine?, title, h, hn]
    · simp [toMenu, menuTexts, sourceLine?, title, h]

/-- The menu is shown if its line about the program can be. -/
theorem shows_toMenu (h : ∀ line ∈ session.sourceLine?, (Console.plain line).isOk) :
    session.toMenu.Shows session.menu (.asking { session with query := .choice }) := by
  have htexts : ∀ text ∈ session.menuTexts, (Console.plain text).isOk := by
    intro text ht
    simp only [menuTexts, List.mem_cons, List.mem_append, Option.mem_toList] at ht
    rcases ht with rfl | ht | ht
    · rw [eq_ok_of_toOption plain_title]
      rfl
    · exact h text ht
    · rw [eq_ok_of_toOption (plain_menuLines text ht)]
      rfl
  rw [toMenu_eq, ← List.append_nil session.menu]
  exact (shows_texts htexts).bind (shows_pure _)

end TapeMachine.Session
