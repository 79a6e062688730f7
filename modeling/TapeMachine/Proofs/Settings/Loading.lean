import TapeMachine.Proofs.Console.Showing
import TapeMachine.Proofs.Files.Folders
import TapeMachine.Proofs.Files.Tasks
import TapeMachine.Proofs.Json.Printed
import TapeMachine.Proofs.Json.Reading
import TapeMachine.Proofs.Json.RoundTrip
import TapeMachine.Proofs.Settings.Checks
import TapeMachine.Settings.File

namespace TapeMachine.Settings

open Files

variable {changes : Json.Fields} {settings : Settings} {files : Tree} {path text : String}

/-- The settings that count where a file says nothing. -/
def defaults : Json.Fields :=
  fields {}

/-- What is asked for by a file: the known fields in their order, each with its default unless the
file has a value for it, then what else is in the file. -/
def merged (changes : Json.Fields) : Json.Fields :=
  defaults.overridden changes ++ changes.filter fun change => !isKnown change.1

theorem distinct_defaults : defaults.Distinct := by
  unfold Dictionary.Distinct
  decide

theorem isNone_get?_defaults (key : Json.Key) : (defaults.get? key).isNone = !isKnown key := by
  rw [Bool.eq_iff_iff, Option.isNone_iff_eq_none, Dictionary.get?_eq_none_iff]
  simp [defaults, fields, knownFields, isKnown, names]

theorem setAll_defaults (hc : changes.Distinct) : defaults.setAll changes = merged changes := by
  rw [Dictionary.setAll_eq distinct_defaults hc, merged, Dictionary.additions]
  simp only [isNone_get?_defaults]

theorem ofJson_obj (hc : changes.Distinct) :
    ofJson (.obj changes) =
      (checked (complaint? (merged changes)) (readOf (merged changes))).mapError
        Fault.settings := by
  rw [← ofFields_eq, ← setAll_defaults hc]
  rfl

theorem pathExists_of_readText (h : files.readText path = .ok text) : files.pathExists path := by
  obtain ⟨bytes, -, hb, -⟩ := Tree.readText_eq_ok_iff.mp h
  obtain ⟨place, hr, hn⟩ := Tree.readBytes_eq_ok_iff.mp hb
  have hf : files.found? path = some (.file bytes) :=
    Tree.found?_eq_some_iff.mpr ⟨place, false, hr, hn, nofun⟩
  exact Option.isSome_iff_exists.mpr ⟨_, hf⟩

/-- Loading settings, once the file is read: what it asks for is checked, and nothing is made of
what there is a complaint about. -/
theorem runOn_load (h : files.readText path = .ok text) (hr : Json.read text = .ok (.obj changes)) :
    (load path).runOn files =
      (do
        let settings ← FileTask.attempt ((checked (complaint? (merged changes))
          (readOf (merged changes))).mapError Fault.settings)
        if settings.logSteps then FileTask.makeDirectories settings.outputDirectory
        return settings : FileTask Settings).runOn files := by
  have hread := FileTask.runOn_readJson_of_readText h hr
  rw [load, FileTask.runOn_bind_ok (FileTask.runOn_get files), pathExists_of_readText h]
  simp only [Bool.not_true, Bool.false_eq_true, if_false]
  rw [FileTask.runOn_bind_ok hread, ofJson_obj (Json.distinct_read hr)]

/-- The directory that stored settings log to, if they do, is there or can be made. -/
def CanLog (fields : Json.Fields) (files : Tree) : Prop :=
  fields.get? "log_steps" = some (.bool true) →
    ∃ directory path, fields.get? "output_directory" = some (.ofWording directory) ∧
      directory.spelled = .ok path ∧
      (files.hasDirectory path ∨ (files.makeDirectories path).2 = none)

/-- Settings that are loaded aloud are loaded as others are. They are shown once they are there. -/
theorem runAt_loadAloud (path now : String) (desk : Desk) :
    (loadAloud path now).runAt desk =
      match (load path).runOn desk.files with
      | (.ok settings, files) =>
        (.ok settings, Desk.showing { desk with files }
          (.text s!"[{now}] Loaded config:" :: settings.lines.map .text))
      | (.error fault, files) => (.error fault, { desk with files }) := by
  rcases hl : (load path).runOn desk.files with ⟨fault | settings, files⟩
  · rw [loadAloud, DeskTask.runAt_bind, DeskTask.runAt_onFiles, hl]
  · have hlines : (settings.lines.forM DeskTask.showLine).Shows (settings.lines.map .text) () :=
      DeskTask.shows_forM fun text _ => DeskTask.shows_showLine text
    rw [loadAloud, DeskTask.runAt_bind, DeskTask.runAt_onFiles, hl]
    simp only
    rw [DeskTask.runAt_bind_ok (DeskTask.shows_showLine _ _), DeskTask.runAt_bind_ok (hlines _),
      Desk.showing_showing]
    rfl

end TapeMachine.Settings
