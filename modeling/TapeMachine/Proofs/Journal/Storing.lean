import TapeMachine.Journal
import TapeMachine.Proofs.Files.Tasks

namespace TapeMachine.Journal

open Files

variable {journal : Journal} {files : Tree} {place : Place}

theorem store_runOn_nowhere (h : journal.onDisk = false) (path : Text.Wording)
    (records : List Record) : (journal.store path records).runOn files = (.ok (), files) := by
  rw [store, if_neg (by simp [h])]
  rfl

theorem store_runOn_onDisk (h : journal.onDisk = true) {path : Text.Wording} {spelled : String}
    (hp : path.spelled = .ok spelled) (hl : files.Leads spelled place) (records : List Record) :
    (journal.store path records).runOn files =
      (.ok (), files.edit ⟨place, (· ++ (String.join (records.map Record.line)).toUTF8)⟩) := by
  rw [store, if_pos h, FileTask.runOn_bind_ok (FileTask.runOn_spelled hp files),
    FileTask.runOn_append_of_leads hl]

/-- The file of the day can be written, if the journal is kept on disk. -/
def Storable (journal : Journal) (files : Tree) : Prop :=
  journal.onDisk = true →
    ∃ path place, journal.current.spelled = .ok path ∧ files.Leads path place

theorem Storable.of_sameDirectories {after : Tree} (h : journal.Storable files)
    (hs : files.SameDirectories after) : journal.Storable after :=
  fun hd => (h hd).imp fun _ => Exists.imp fun _ => And.imp_right (·.of_sameDirectories hs)

theorem Storable.store_runOn (h : journal.Storable files) (records : List Record) :
    ∃ after, (journal.store journal.current records).runOn files = (.ok (), after) ∧
      files.SameDirectories after := by
  cases hd : journal.onDisk with
  | false => exact ⟨files, store_runOn_nowhere hd _ _, .refl files⟩
  | true =>
    obtain ⟨path, place, hp, hl⟩ := h hd
    exact ⟨_, store_runOn_onDisk hd hp hl records, Tree.sameDirectories_edit hl.2⟩

end TapeMachine.Journal
