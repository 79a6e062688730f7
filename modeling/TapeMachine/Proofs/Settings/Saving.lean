import TapeMachine.Proofs.Files.Folders
import TapeMachine.Proofs.Files.Homes
import TapeMachine.Proofs.Files.Tasks
import TapeMachine.Proofs.Json.Printed
import TapeMachine.Settings.File

namespace TapeMachine.Settings

open Files

variable {settings : Settings} {fields : Json.Fields} {files after : Tree} {fault : Fault}

theorem textField_of_get? {key : String} {text : Text.Wording}
    (h : fields.get? key = some (.ofWording text)) : textField fields key = .ok text := by
  cases text <;> rw [textField, h] <;> rfl

/-- Stored settings are read as they were, if their numbers are in range. -/
theorem ofFields_fields (settings : Settings) :
    ofFields settings.fields =
      match settings.rangeError? with
      | some error => .error error
      | none =>
        .ok { settings with others := settings.fields.filter fun field => !isKnown field.1 } := by
  have hout : textField settings.fields "output_directory" = .ok settings.outputDirectory :=
    textField_of_get? rfl
  have hlog : textField settings.fields "log_file_prefix" = .ok settings.logFilePrefix :=
    textField_of_get? rfl
  have hprogram : textField settings.fields "default_program" = .ok settings.defaultProgram :=
    textField_of_get? rfl
  have hgraph : textField settings.fields "graph_start_state" = .ok settings.graphStartState :=
    textField_of_get? rfl
  have hcounts : textField settings.fields "faq_counter_file" = .ok settings.countsFile :=
    textField_of_get? rfl
  have hspeed : integerField settings.fields "speed" = .ok settings.speed := rfl
  have hsteps : integerField settings.fields "max_steps" = .ok settings.maxSteps := rfl
  have hwindow : integerField settings.fields "tape_window" = .ok settings.tapeWindow := rfl
  have hdisk : truthField settings.fields "log_steps" = .ok settings.logSteps := rfl
  unfold ofFields
  rw [hspeed, hsteps, hwindow, hdisk, hout, hlog, hprogram, hgraph, hcounts]
  rfl

/-- Settings pass the check that stored ones have to pass. -/
def Valid (settings : Settings) : Prop :=
  ∃ read, ofFields settings.fields = .ok read

theorem valid_iff : settings.Valid ↔ settings.rangeError? = none := by
  rw [Valid, ofFields_fields]
  cases settings.rangeError? with
  | none => simp
  | some error => simp

/-- Fields that are no settings are not stored, and no file is touched. -/
theorem runOn_saveFields_refused {error : Error} (h : ofFields fields = .error error)
    (path : String) (files : Tree) :
    (saveFields fields path).runOn files = (.error (.settings error), files) := by
  rw [saveFields, h, mapError_error, FileTask.runOn_bind, FileTask.runOn_attempt]

/-- The last part of storing settings: the directory is made that the file belongs to, and the file
is written. -/
def storeText (path text : String) : FileTask Unit := do
  FileTask.makeDirectories (homeOf path)
  FileTask.write path text

/-- Either the text is all that the file holds, or the file system refuses something, and then there
may be more directories but nothing else is new. -/
theorem runOn_storeText {path text : String} {result : Except Fault Unit}
    (hs : (storeText path text).runOn files = (result, after)) :
    (result = .ok () ∧
      ∃ place, after.Leads path place ∧ after.node? place = some (.file text.toUTF8)) ∨
    (∃ error, result = .error (.file error)) ∧ files.Extends after := by
  obtain ⟨home, hh, -⟩ := homeOf_whole path
  rw [storeText, hh, FileTask.runOn_bind, FileTask.runOn_makeDirectories rfl] at hs
  rcases hm : files.makeDirectories home with ⟨made, _ | error⟩
  · rw [hm] at hs
    simp only at hs
    cases result with
    | ok _ => exact .inl ⟨rfl, FileTask.written_of_write hs⟩
    | error fault =>
      rw [FileTask.write, FileTask.runOn_change] at hs
      cases hw : made.write path text with
      | ok written =>
        rw [hw] at hs
        cases hs
      | error error =>
        rw [hw] at hs
        cases hs
        exact .inr ⟨⟨error, rfl⟩, Tree.makeDirectories_extends hm⟩
  · rw [hm] at hs
    cases hs
    exact .inr ⟨⟨error, rfl⟩, Tree.makeDirectories_extends hm⟩

/-- Fields whose numbers are short are stored whole. -/
theorem runOn_saveFields (h : ofFields fields = .ok settings) (hs : (Json.obj fields).IsShort)
    (path : String) (files : Tree) :
    (saveFields fields path).runOn files = (storeText path (Json.obj fields).indented).runOn files := by
  rw [saveFields, h, mapError_ok, FileTask.writeJson_of_isShort hs]
  exact FileTask.runOn_bind_ok (FileTask.runOn_attempt (.ok settings) files)

/-- Else the text before the first number that is too long is stored. -/
theorem runOn_saveFields_cut {text : String} (h : ofFields fields = .ok settings)
    (hc : (Json.obj fields).cut? = some text) (path : String) (files : Tree) :
    (saveFields fields path).runOn files =
      (storeText path text >>= fun _ => throw Fault.tooManyDigits).runOn files := by
  rw [saveFields, h, mapError_ok, FileTask.writeJson_of_cut hc, storeText, bind_assoc]
  exact FileTask.runOn_bind_ok (FileTask.runOn_attempt (.ok settings) files)

theorem isShort_of_saveFields {path : String}
    (hs : (saveFields fields path).runOn files = (.ok (), after)) : (Json.obj fields).IsShort := by
  obtain ⟨_, _, _, hrest⟩ := FileTask.ok_of_bind hs
  obtain ⟨_, _, _, hwrite⟩ := FileTask.ok_of_bind hrest
  exact FileTask.isShort_of_writeJson hwrite

theorem leads_of_saveFields {path : String}
    (hs : (saveFields fields path).runOn files = (.ok (), after)) :
    ∃ place, after.Leads path place ∧
      after.node? place = some (.file (Json.obj fields).indented.toUTF8) := by
  obtain ⟨_, _, _, hrest⟩ := FileTask.ok_of_bind hs
  obtain ⟨_, made, _, hwrite⟩ := FileTask.ok_of_bind hrest
  exact FileTask.written_of_writeJson hwrite

/-- Stored fields are there to be read as they are written. -/
theorem readText_of_saveFields {path : String}
    (hs : (saveFields fields path).runOn files = (.ok (), after)) :
    after.readText path = .ok (Json.obj fields).indented := by
  obtain ⟨place, hl, hn⟩ := leads_of_saveFields hs
  exact hl.readText hn (Json.return_notMem_indented _)

/-- At a number that is too long a save ends, and what stands before it is all that the file holds,
unless the file system refuses something before. -/
theorem runOn_saveFields_of_cut {path text : String} {result : Except Fault Unit}
    (h : ofFields fields = .ok settings) (hc : (Json.obj fields).cut? = some text)
    (hs : (saveFields fields path).runOn files = (result, after)) :
    (result = .error .tooManyDigits ∧ after.readText path = .ok text) ∨
      (∃ error, result = .error (.file error)) ∧ files.Extends after := by
  rw [runOn_saveFields_cut h hc, FileTask.runOn_bind] at hs
  rcases ht : (storeText path text).runOn files with ⟨stored, last⟩
  rw [ht] at hs
  obtain ⟨rfl, place, hl, hn⟩ | ⟨⟨error, rfl⟩, he⟩ := runOn_storeText ht
  · cases hs
    exact .inl ⟨rfl, hl.readText hn (Json.return_notMem_cut? hc)⟩
  · cases hs
    exact .inr ⟨⟨error, rfl⟩, he⟩

/-- Settings out of range are not stored. -/
theorem runOn_save_refused {error : Error} (h : settings.rangeError? = some error) (path : String)
    (files : Tree) : (settings.save path).runOn files = (.error (.settings error), files) :=
  runOn_saveFields_refused (by rw [ofFields_fields, h]) path files

/-- Settings can be written if their numbers and what else they hold can be. -/
theorem isShort_fields_iff : (Json.obj settings.fields).IsShort ↔
    ((Json.int settings.speed).IsShort ∧ (Json.int settings.maxSteps).IsShort ∧
      (Json.int settings.tapeWindow).IsShort) ∧ (Json.obj settings.others).IsShort := by
  have hkey : ∀ name : String, Json.isTooLong (Json.ofKey (.text name)) = false := fun _ => rfl
  have hbool : (Json.bool settings.logSteps).IsShort := .bool _
  have hword : ∀ word : Text.Wording, (Json.ofWording word).IsShort := by
    rintro (s | points)
    · exact .str s
    · exact .torn points
  rw [Json.isShort_obj_iff, Json.isShort_obj_iff, Settings.fields, List.forall_mem_append,
    knownFields]
  simp only [List.forall_mem_cons, hkey, hword, hbool, true_and, List.not_mem_nil, false_imp_iff,
    implies_true, and_true]

/-- Valid settings can only be refused by the file system, or for a number that is too long. -/
theorem fault_of_save (h : settings.Valid) {path : String}
    (hs : (settings.save path).runOn files = (.error fault, after)) :
    (∃ error, fault = .file error) ∨
      fault = .tooManyDigits ∧ ¬(Json.obj settings.fields).IsShort := by
  obtain ⟨read, ho⟩ := h
  cases hc : (Json.obj settings.fields).cut? with
  | none =>
    rw [save, runOn_saveFields ho (Json.cut?_eq_none_iff.mp hc)] at hs
    obtain ⟨ho, -⟩ | ⟨⟨error, he⟩, -⟩ := runOn_storeText hs
    · cases ho
    · exact .inl ⟨error, Except.error.inj he⟩
  | some text =>
    have hlong : ¬(Json.obj settings.fields).IsShort := by
      rw [← Json.cut?_eq_none_iff, hc]
      exact nofun
    obtain ⟨he, -⟩ | ⟨⟨error, he⟩, -⟩ := runOn_saveFields_of_cut ho hc hs
    · exact .inr ⟨Except.error.inj he, hlong⟩
    · exact .inl ⟨error, Except.error.inj he⟩

/-- A file holds the settings as they are written, and is read as what their text says: as the
settings themselves, unless they hold what a reader refuses. -/
structure StoredIn (settings : Settings) (path : String) (files : Tree) : Prop where
  written : files.readBytes path = .ok (Json.obj settings.fields).indented.toUTF8
  read_back : ∀ value, Json.read (Json.obj settings.fields).indented = .ok value →
    (FileTask.readJson path).runOn files = (.ok value, files)
  legible : Json.Legible Json.maxDepth (.obj settings.fields) →
    (FileTask.readJson path).runOn files = (.ok (.obj settings.fields), files)

theorem storedIn_of_save {path : String} (hs : (settings.save path).runOn files = (.ok (), after)) :
    settings.StoredIn path after := by
  obtain ⟨place, hl, hn⟩ := leads_of_saveFields hs
  have hread : ∀ value, Json.read (Json.obj settings.fields).indented = .ok value →
      (FileTask.readJson path).runOn after = (.ok value, after) :=
    fun value hr => FileTask.runOn_readJson_of_readText (readText_of_saveFields hs) hr
  exact ⟨hl.readBytes hn, hread, fun h => hread _ (Json.read_indented h)⟩

/-- The names of the fields that can be edited. -/
def asked : List String :=
  ["speed", "max_steps", "tape_window", "log_steps", "default_program", "graph_start_state"]

/-- Settings that differ in fields that can be edited at most. -/
def Edited (settings draft : Settings) : Prop :=
  draft = { settings with
    speed := draft.speed
    maxSteps := draft.maxSteps
    tapeWindow := draft.tapeWindow
    logSteps := draft.logSteps
    defaultProgram := draft.defaultProgram
    graphStartState := draft.graphStartState }

theorem edited_refl (settings : Settings) : settings.Edited settings := rfl

variable {draft : Settings}

/-- Settings with the same fields, of which all but those of some names have the same values. -/
structure SameBut (names : List String) (settings draft : Settings) : Prop where
  names_eq : draft.fields.map Prod.fst = settings.fields.map Prod.fst
  get?_eq : ∀ key : Json.Key, (∀ name ∈ names, (key == .text name) = false) →
    draft.fields.get? key = settings.fields.get? key

theorem Edited.sameBut (h : settings.Edited draft) : SameBut asked settings draft := by
  rw [h]
  refine ⟨rfl, fun key hk => ?_⟩
  simp only [asked, List.forall_mem_cons] at hk
  obtain ⟨hspeed, hsteps, hwindow, hlog, hprogram, hgraph, -⟩ := hk
  simp only [fields, knownFields, Dictionary.get?, List.cons_append, List.nil_append,
    List.lookup_cons, hspeed, hsteps, hwindow, hlog, hprogram, hgraph]

end TapeMachine.Settings
