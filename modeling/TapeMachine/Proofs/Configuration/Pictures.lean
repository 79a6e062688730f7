import TapeMachine.Proofs.Configuration.View
import TapeMachine.Proofs.Machine.Calls
import TapeMachine.Proofs.Text.Lines
import TapeMachine.Settings.Basic

namespace TapeMachine

namespace Configuration

variable {c : Configuration} {blank : String} {width : Int} {cells : List String}

theorem viewStart_eq (c : Configuration) (width : Int) :
    (c.viewStart width : Int) = max 0 (c.head - width / 2) := by
  rw [viewStart, Int.fdiv_eq_ediv_of_nonneg width (by decide)]
  omega

/-- By how many cells a view reaches past the end of the tape. -/
def beyond (c : Configuration) (width : Int) : Int :=
  max 0 (c.head - width / 2) + width - c.tape.size

theorem OnTape.head_in_view (on : c.OnTape) (hw : 0 < width) :
    c.viewStart width ≤ c.head ∧ c.head < c.viewStart width + width := by
  have hs := viewStart_eq c width
  have := on.1
  omega

theorem OnTape.length_cellsInView (on : c.OnTape) (hw : 0 < width) :
    ((c.cellsInView width).length : Int) = width - max 0 (c.beyond width) := by
  have hs := viewStart_eq c width
  have hstart := on.head_in_view hw
  have hend : c.viewEnd width = (c.viewStart width + width).toNat := if_neg (by omega)
  rw [cellsInView, Array.length_toList, Array.size_extract, hend, beyond]
  have := on.2
  omega

theorem OnTape.missingBlanks_eq (on : c.OnTape) (hw : 0 < width) :
    missingBlanks (c.cellsInView width) width =
      if maxCount ≤ c.beyond width then .error .uncountable else .ok (c.beyond width).toNat := by
  have hmissing : width - (c.cellsInView width).length = max 0 (c.beyond width) := by
    have := on.length_cellsInView hw
    omega
  have hcount : maxCount = 0x8000000000000000 := rfl
  simp only [missingBlanks, hmissing]
  by_cases huge : maxCount ≤ c.beyond width
  · rw [if_pos (by omega), if_pos huge]
  · rw [if_neg (by omega), if_neg huge]
    congr 1
    omega

/-- The cells of a tape from one on, blanks past its end. -/
def cellsFrom (c : Configuration) (blank : String) (start count : Nat) : List String :=
  (List.range count).map fun i => c.tape.getD (start + i) blank

theorem getElem?_cellsFrom {start count i : Nat} (h : i < count) :
    (c.cellsFrom blank start count)[i]? = some (c.tape.getD (start + i) blank) := by
  rw [cellsFrom, List.getElem?_map, List.getElem?_range h]
  rfl

theorem length_cellsFrom (c : Configuration) (blank : String) (start count : Nat) :
    (c.cellsFrom blank start count).length = count := by
  rw [cellsFrom, List.length_map, List.length_range]

theorem OnTape.view_eq (on : c.OnTape) (hw : 0 < width) (hcount : c.beyond width < maxCount)
    (blank : String) :
    c.view blank width = .ok (c.cellsFrom blank (c.viewStart width) width.toNat) := by
  have hlength := on.length_cellsInView hw
  have hbeyond : c.beyond width = c.viewStart width + width - c.tape.size := by
    rw [beyond, viewStart_eq]
  have hend : c.viewEnd width = (c.viewStart width + width).toNat := if_neg (by omega)
  rw [view, on.missingBlanks_eq hw, if_neg (by omega)]
  refine congrArg Except.ok (List.ext_getElem? fun i => ?_)
  rw [List.getElem?_append, List.getElem?_replicate]
  by_cases hi : i < width.toNat
  · rw [getElem?_cellsFrom hi, Array.getD_eq_getD_getElem?]
    split
    next hin =>
      have hcell : c.viewStart width + i < c.tape.size := by omega
      rw [cellsInView, Array.getElem?_toList, Array.getElem?_extract, hend, if_pos (by omega),
        Array.getElem?_eq_getElem hcell, Option.getD_some]
    next hout =>
      rw [if_pos (by omega), Array.getElem?_eq_none (by omega), Option.getD_none]
  · rw [if_neg (by omega), if_neg (by omega), List.getElem?_eq_none]
    rw [length_cellsFrom]
    omega

/-- Cells side by side, each filled up to one width, over a caret in some column. -/
structure Picture where
  cells : List String
  wide : Nat
  column : Nat

namespace Picture

def line (p : Picture) : String :=
  " ".intercalate (p.cells.map (padRight p.wide))

def text (p : Picture) : String :=
  p.line ++ "\n" ++ String.ofList (List.replicate p.column ' ') ++ "^"

/-- What stands above the caret, as wide as a cell is. -/
def pointed (p : Picture) : String :=
  String.ofList ((p.line.toList.drop p.column).take p.wide)

end Picture

theorem picture_eq {wide : Nat} (h : (cells.map String.length).max? = some wide) (offset : Nat) :
    picture cells offset = .ok (Picture.mk cells wide (offset * (wide + 1))).text := by
  cases cells with
  | nil => cases h
  | cons cell rest =>
    rw [List.map_cons, List.max?_cons'] at h
    cases h
    rfl

theorem length_padRight {wide : Nat} {text : String} (h : text.length ≤ wide) :
    (padRight wide text).length = wide := by
  rw [padRight, String.length_append, String.length_ofList, List.length_replicate]
  omega

/-- Of pieces of one width, each with a separator after it, one begins where those before it end. -/
theorem take_drop_intercalate {α : Type} {separator : α} {wide : Nat} {pieces : List (List α)}
    (h : ∀ piece ∈ pieces, piece.length = wide) {i : Nat} {piece : List α}
    (hi : pieces[i]? = some piece) :
    (([separator].intercalate pieces).drop (i * (wide + 1))).take wide = piece := by
  induction pieces generalizing i with
  | nil => cases hi
  | cons first rest ih =>
    have hfirst : first.length = wide := h first List.mem_cons_self
    have hrest := fun other ho => h other (List.mem_cons_of_mem first ho)
    cases i with
    | zero =>
      obtain rfl : first = piece := Option.some.inj hi
      rw [Nat.zero_mul, List.drop_zero]
      cases rest with
      | nil => rw [List.intercalate_singleton, List.take_of_length_le (by omega)]
      | cons next rest =>
        rw [List.intercalate_cons_cons, List.append_assoc, List.take_left' hfirst]
    | succ i =>
      obtain ⟨next, rest, rfl⟩ : ∃ next more, rest = next :: more :=
        List.exists_cons_of_ne_nil (by rintro rfl; cases hi)
      have hskip : (i + 1) * (wide + 1) = (first ++ [separator]).length + i * (wide + 1) := by
        rw [List.length_append, hfirst, List.length_singleton, Nat.succ_mul, Nat.add_comm]
      rw [List.intercalate_cons_cons, hskip, ← List.drop_drop, List.drop_left]
      exact ih hrest hi

namespace Picture

variable {p : Picture}

theorem pointed_eq {i : Nat} {cell : String} (hw : ∀ cell ∈ p.cells, cell.length ≤ p.wide)
    (hi : p.cells[i]? = some cell) (hc : p.column = i * (p.wide + 1)) :
    p.pointed = padRight p.wide cell := by
  have hpieces : ∀ piece ∈ (p.cells.map (padRight p.wide)).map String.toList,
      piece.length = p.wide := by
    intro piece hp
    simp only [List.mem_map, exists_exists_and_eq_and] at hp
    obtain ⟨other, ho, rfl⟩ := hp
    rw [String.length_toList, length_padRight (hw other ho)]
  have hpiece : ((p.cells.map (padRight p.wide)).map String.toList)[i]? =
      some (padRight p.wide cell).toList := by
    rw [List.getElem?_map, List.getElem?_map, hi]
    rfl
  have htake := @take_drop_intercalate Char ' ' p.wide _ hpieces i _ hpiece
  rw [pointed, line, String.toList_intercalate, hc]
  exact String.toList_inj.mp (String.toList_ofList.trans htake)

/-- The first line of a picture ends with its cells, unless one of them holds a line break. -/
theorem takeWhile_text (h : ∀ cell ∈ p.cells, '\n' ∉ cell.toList) :
    p.text.toList.takeWhile (· ≠ '\n') = p.line.toList := by
  have hline : ∀ c ∈ p.line.toList, decide (c ≠ '\n') = true := by
    intro c hc
    rw [decide_eq_true_eq]
    rintro rfl
    rcases Text.mem_intercalate hc with hc | ⟨padded, hp, hc⟩
    · exact absurd hc (by decide)
    · obtain ⟨cell, hm, rfl⟩ := List.mem_map.mp hp
      rw [padRight, String.toList_append, String.toList_ofList, List.mem_append] at hc
      rcases hc with hc | hc
      · exact h cell hm hc
      · exact absurd (List.eq_of_mem_replicate hc) (by decide)
  have htext : p.text.toList = p.line.toList ++ '\n' :: (List.replicate p.column ' ' ++ ['^']) := by
    simp [text]
  rw [htext, List.takeWhile_append_of_pos hline, List.takeWhile_cons_of_neg (by decide),
    List.append_nil]

end Picture

/-- A picture of as many cells as were asked for, half of them to the left of the head unless the
tape begins before, with the caret under the symbol that is read. -/
structure Picture.PointsAtHead (p : Picture) (c : Configuration) (blank : String) (width : Int) :
    Prop where
  count : (p.cells.length : Int) = width
  cell : ∀ i < p.cells.length,
    p.cells[i]? = some (c.tape.getD ((max 0 (c.head - width / 2)).toNat + i) blank)
  head : ∃ i : Nat, (i : Int) = c.head - max 0 (c.head - width / 2) ∧
    p.cells[i]? = some (c.read blank) ∧ c.tape[c.head.toNat]? = some (c.read blank)
  padded : ∀ cell ∈ p.cells, (padRight p.wide cell).length = p.wide
  pointed : p.pointed = padRight p.wide (c.read blank)
  first_line : (∀ cell ∈ p.cells, '\n' ∉ cell.toList) →
    p.text.toList.takeWhile (· ≠ '\n') = p.line.toList

theorem OnTape.render_eq (on : c.OnTape) (hw : 0 < width) (hcount : c.beyond width < maxCount)
    (blank : String) :
    ∃ p : Picture, c.render blank width = .ok p.text ∧ p.PointsAtHead c blank width := by
  have hs := viewStart_eq c width
  obtain ⟨hfirst, hlast⟩ := on.head_in_view hw
  have hview := on.view_eq hw hcount blank
  have hlength := length_cellsFrom c blank (c.viewStart width) width.toNat
  generalize hcells : c.cellsFrom blank (c.viewStart width) width.toNat = cells at hview hlength
  have hne : cells.map String.length ≠ [] := by
    rw [ne_eq, ← List.length_eq_zero_iff, List.length_map]
    omega
  obtain ⟨wide, hwide⟩ := Option.isSome_iff_exists.mp (List.isSome_max?_of_ne_nil hne)
  have hle : ∀ cell ∈ cells, cell.length ≤ wide := fun cell hc =>
    (List.max?_eq_some_iff.mp hwide).2 _ (List.mem_map_of_mem hc)
  -- The caret stands under the cell that is `offset` cells into the window.
  obtain ⟨offset, hoffset⟩ := Int.le.dest hfirst
  have hread : cells[offset]? = some (c.read blank) := by
    have hhead : c.viewStart width + offset = c.head.toNat := by omega
    rw [← hcells, getElem?_cellsFrom (by omega), hhead, Array.getD_eq_getD_getElem?,
      on.getElem?_head blank, Option.getD_some]
  have hpicture := picture_eq hwide offset
  have hcaret : c.head - c.viewStart width = offset := by omega
  refine ⟨⟨cells, wide, offset * (wide + 1)⟩, ?_, ?_⟩
  · rw [render, hview, hcaret]
    exact hpicture
  · exact
      { count := hlength.symm ▸ Int.toNat_of_nonneg (Int.le_of_lt hw)
        cell := by
          intro i hi
          rw [← hs, Int.toNat_natCast, ← hcells]
          exact getElem?_cellsFrom (hlength ▸ hi)
        head := ⟨offset, by omega, hread, on.getElem?_head blank⟩
        padded := fun cell hc => length_padRight (hle cell hc)
        pointed := Picture.pointed_eq hle hread rfl
        first_line := Picture.takeWhile_text }

theorem OnTape.render_error (on : c.OnTape) (hw : 0 < width) (hcount : maxCount ≤ c.beyond width)
    (blank : String) : c.render blank width = .error .uncountable := by
  rw [render, view, on.missingBlanks_eq hw, if_pos hcount]
  rfl

end Configuration

namespace Machine

open TapeMachine.Configuration

variable {table : Table}

/-- The tape of a machine is shown as wide as is asked, with the caret under the head, whatever was
asked of the machine before. There is no picture if more blanks are wanted past the end of the tape
than can be counted. -/
theorem render_points_at_head (h : table.rules ≠ []) :
    ∃ fresh, ofTable? table = some fresh ∧ ∀ (calls : List Call) (width : Int), 0 < width →
      let machine := fresh.afterCalls calls
      let c := machine.configuration
      (c.beyond width < maxCount →
        ∃ p : Picture, machine.render width = .ok p.text ∧
          p.PointsAtHead c table.blank width) ∧
      (maxCount ≤ c.beyond width → machine.render width = .error .uncountable) := by
  obtain ⟨fresh, hf⟩ := ofTable?_exists h
  refine ⟨fresh, hf, fun calls width hw => ?_⟩
  intro machine c
  have sound : machine.Sound table := sound_afterCalls hf calls
  have hrender : machine.render width = c.render table.blank width := by
    rw [render, sound.table_eq]
  rw [hrender]
  exact ⟨fun hcount => sound.onTape.render_eq hw hcount table.blank,
    fun hcount => sound.onTape.render_error hw hcount table.blank⟩

/-- An even number of cells with a wide symbol among them, at the right end of the tape. -/
theorem render_points_at_head_wide :
    let table : Table :=
      { rules := [⟨"s", .list ["0", "1"], some "ten", .right, "s"⟩,
          ⟨"s", .one "_", none, .left, "t"⟩]
        initialState := "s"
        initialTape := ["0", "1", "1"] }
    table.rules ≠ [] ∧ ∃ fresh, ofTable? table = some fresh ∧
      let machine := fresh.afterCalls [.run 2, .step]
      0 < (4 : Int) ∧ machine.configuration.beyond 4 = 1 ∧
        (∃ p : Picture, machine.render 4 = .ok p.text ∧
          p.PointsAtHead machine.configuration table.blank 4) ∧
        machine.render 4 = .ok "ten ten _   _  \n        ^" := by
  intro table
  have h : table.rules ≠ [] := by decide
  obtain ⟨fresh, hf, shows⟩ := render_points_at_head h
  have hrun : (fresh.afterCalls [.run 2, .step]).configuration.beyond 4 = 1 ∧
      (fresh.afterCalls [.run 2, .step]).render 4 = .ok "ten ten _   _  \n        ^" := by
    cases Option.some.inj hf
    decide +kernel
  obtain ⟨hbeyond, htext⟩ := hrun
  have hpicture := (shows [.run 2, .step] 4 (by decide)).1 (by rw [hbeyond]; decide)
  exact ⟨h, fresh, hf, by decide, hbeyond, hpicture, htext⟩

/-- Settings may ask for more cells than can be counted, and then there is no picture. -/
theorem render_uncountable :
    let settings : Settings := { tapeWindow := 100000000000000000000 }
    settings.rangeError? = none ∧ 1 ≤ settings.tapeWindow ∧
      ∃ fresh, ofTable? { rules := [⟨"s", .one "1", some "0", .right, "done"⟩]
                          initialState := "s"
                          initialTape := ["1"] } = some fresh ∧
        fresh.render settings.tapeWindow = .error .uncountable := by
  intro settings
  exact ⟨by decide, by decide, _, rfl, by decide⟩

end Machine

end TapeMachine
