import TapeMachine.Proofs.Settings.Loading
import TapeMachine.Proofs.Settings.Saving

namespace TapeMachine.Settings

open Files

variable {fields : Json.Fields} {files after : Tree} {path : String}
variable {error : Error}

/-- What a file holds is accepted when it is loaded, the directory to log to apart. -/
def Accepts (files : Tree) (path : String) : Prop :=
  ∃ value settings, (FileTask.readJson path).runOn files = (.ok value, files) ∧
    ofJson value = .ok settings

/-- Fields are written to their end, and read as they were before. -/
structure ReadsBack (fields : Json.Fields) : Prop where
  uncut : (Json.obj fields).cut? = none
  read : Json.read (Json.obj fields).indented = .ok (.obj fields)

/-- What comes of storing fields. -/
structure Keeps (fields : Json.Fields) (path : String) (files : Tree) : Prop where
  readsBack : Json.Legible Json.maxDepth (.obj fields) → ReadsBack fields
  loaded : ReadsBack fields →
    ∀ after, (saveFields fields path).runOn files = (.ok (), after) → CanLog fields after →
      ∃ settings, ((load path).runOn after).1 = .ok settings ∧
        ∀ key, settings.fields.get? key = fields.get? key
  /-- The check rejects a missing field, a value of another kind and a number out of range. -/
  rejected_iff : ∀ error, ofFields fields = .error error ↔ Complaint fields error
  /-- What it rejects is refused with its error, and nothing is touched. -/
  refused : ∀ error, ofFields fields = .error error →
    (saveFields fields path).runOn files = (.error (.settings error), files)
  /-- A file whose content is accepted is never left with content that is not. -/
  accepted : ReadsBack fields → Accepts files path →
    Accepts ((saveFields fields path).runOn files).2 path
  /-- Fields that are not written to their end are not stored: the save ends with a fault, and unless
  the file system has refused something before, the file holds the text before the number that is
  too long. -/
  cut : ∀ settings text, ofFields fields = .ok settings → (Json.obj fields).cut? = some text →
    ∀ result after, (saveFields fields path).runOn files = (result, after) →
      (result = .error .tooManyDigits ∧ after.readText path = .ok text) ∨
        (∃ error, result = .error (.file error)) ∧ files.Extends after

end TapeMachine.Settings
