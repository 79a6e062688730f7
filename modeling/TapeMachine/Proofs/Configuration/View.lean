import TapeMachine.Console.Board

namespace TapeMachine

namespace Configuration

variable {c : Configuration} {blank : String} {width : Int}

theorem length_cellsInView_le (hw : 0 < width) : ((c.cellsInView width).length : Int) ≤ width := by
  have hstop : ¬((c.viewStart width : Int) + width < 0) := by omega
  have hend : c.viewEnd width = (c.viewStart width + width).toNat := if_neg hstop
  rw [cellsInView, Array.length_toList, Array.size_extract, hend]
  omega

/-- As many cells are in view as were asked for. -/
theorem view_exists (hw : 0 < width) (hcount : width < maxCount) (c : Configuration)
    (blank : String) : ∃ cells, c.view blank width = .ok cells ∧ (cells.length : Int) = width := by
  have hlength := @length_cellsInView_le c width hw
  have hmissing : missingBlanks (c.cellsInView width) width =
      .ok (width - (c.cellsInView width).length).toNat := by
    have hcounted : ¬(width - (c.cellsInView width).length < -maxCount ∨
        maxCount ≤ width - (c.cellsInView width).length) := by omega
    simp only [missingBlanks, if_neg hcounted]
  refine ⟨_, by rw [view, hmissing]; rfl, ?_⟩
  rw [List.length_append, List.length_replicate]
  omega

theorem picture_exists {cells : List String} (h : cells ≠ []) (offset : Int) :
    ∃ text, picture cells offset = .ok text := by
  obtain ⟨cell, cells, rfl⟩ := List.exists_cons_of_ne_nil h
  exact ⟨_, rfl⟩

/-- A tape can be shown if a cell is to be in view and the cells can be counted. -/
theorem render_exists (hw : 0 < width) (hcount : width < maxCount) (c : Configuration)
    (blank : String) : ∃ text, c.render blank width = .ok text := by
  obtain ⟨cells, hview, hlength⟩ := view_exists hw hcount c blank
  have hne : cells ≠ [] := by
    rintro rfl
    simp only [List.length_nil] at hlength
    omega
  obtain ⟨text, ht⟩ := picture_exists hne (c.head - c.viewStart width)
  exact ⟨text, by rw [render, hview]; exact ht⟩

end Configuration

theorem Machine.board_exists {width : Int} (hw : 0 < width)
    (hcount : width < Configuration.maxCount) (machine : Machine) :
    ∃ shown, machine.board width = .ok shown := by
  obtain ⟨text, ht⟩ :=
    Configuration.render_exists hw hcount machine.configuration machine.table.blank
  exact ⟨_, by rw [board, render, ht]; rfl⟩

theorem exists_mapM {α β ε : Type} {f : α → Except ε β} (h : ∀ a, ∃ b, f a = .ok b)
    (items : List α) : ∃ results, items.mapM f = .ok results ∧ results.length = items.length := by
  induction items with
  | nil => exact ⟨[], rfl, rfl⟩
  | cons item items ih =>
    obtain ⟨result, hr⟩ := h item
    obtain ⟨results, hrs, hl⟩ := ih
    exact ⟨result :: results, by rw [List.mapM_cons, hr, hrs]; rfl, congrArg Nat.succ hl⟩

/-- A run can be shown at each of its steps, as wide as pictures are unless a number is given. -/
theorem Machine.pictures_exist (machine : Machine) (budget : Int) :
    ∃ pictures, machine.pictures budget = .ok pictures ∧
      pictures.length = (machine.frames budget.toNat).length := by
  refine exists_mapM (fun frame => ?_) _
  obtain ⟨text, ht⟩ := Configuration.render_exists (by decide : 0 < usualWidth) (by decide)
    frame.configuration frame.table.blank
  exact ⟨_, by rw [picture, render, ht]; rfl⟩

end TapeMachine
