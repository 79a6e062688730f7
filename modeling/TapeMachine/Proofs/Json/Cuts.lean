import Mathlib.Data.String.Basic
import TapeMachine.Json.Writer

namespace TapeMachine.Json

variable {depth : Nat} {lead text : String} {value : Json}

/-- No number in a value, nor any that is a key, has more digits than can be written. -/
inductive IsShort : Json → Prop
  | null : IsShort null
  | bool (b : Bool) : IsShort (bool b)
  | int {n : Int} (h : isTooLong (int n) = false) : IsShort (int n)
  | float (x : Float) : IsShort (float x)
  | str (s : String) : IsShort (str s)
  | torn (points : List Nat) : IsShort (torn points)
  | arr {items : List Json} (h : ∀ item ∈ items, IsShort item) : IsShort (arr items)
  | obj {fields : List (Key × Json)} (keys : ∀ field ∈ fields, isTooLong (ofKey field.1) = false)
      (h : ∀ field ∈ fields, IsShort field.2) : IsShort (obj fields)

theorem isShort_int_iff {n : Int} : IsShort (int n) ↔ isTooLong (int n) = false :=
  ⟨fun h => by cases h; assumption, .int⟩

theorem isShort_arr_iff {items : List Json} : IsShort (arr items) ↔ ∀ item ∈ items, IsShort item :=
  ⟨fun h => by cases h; assumption, .arr⟩

theorem isShort_obj_iff {fields : List (Key × Json)} :
    IsShort (obj fields) ↔
      ∀ field ∈ fields, isTooLong (ofKey field.1) = false ∧ IsShort field.2 := by
  refine ⟨fun h => ?_, fun h => .obj (fun field hf => (h field hf).1) fun field hf => (h field hf).2⟩
  cases h with
  | obj keys h => exact fun field hf => ⟨keys field hf, h field hf⟩

theorem isTooLong_int_eq_false_iff {n : Int} :
    isTooLong (int n) = false ↔ n.natAbs < 10 ^ Text.maxDigits := by
  change decide (Nat.pow 10 Text.maxDigits ≤ n.natAbs) = false ↔ _
  -- The power is not to be computed.
  generalize Text.maxDigits = digits
  rw [decide_eq_false_iff_not, Nat.not_le]
  rfl

mutual

/-- The writing of a value goes on to its end if all its numbers are short. -/
theorem cutAt?_eq_none_iff (depth : Nat) (lead : String) :
    (value : Json) → (cutAt? depth lead value = none ↔ IsShort value)
  | null => iff_of_true rfl .null
  | bool b => iff_of_true rfl (.bool b)
  | int n => by
    rw [isShort_int_iff, cutAt?]
    cases isTooLong (int n) <;> simp
  | float x => iff_of_true rfl (.float x)
  | str s => iff_of_true rfl (.str s)
  | torn points => iff_of_true rfl (.torn points)
  | arr items => by
    rw [isShort_arr_iff, cutAt?, Option.map_eq_none_iff]
    exact cutItems?_eq_none_iff _ _ items
  | obj fields => by
    rw [isShort_obj_iff, cutAt?, Option.map_eq_none_iff]
    exact cutFields?_eq_none_iff _ _ fields

theorem cutItems?_eq_none_iff (depth : Nat) (lead : String) :
    (items : List Json) → (cutItems? depth lead items = none ↔ ∀ item ∈ items, IsShort item)
  | [] => by simp [cutItems?]
  | item :: items => by
    have hitem := cutAt?_eq_none_iff depth lead item
    have hitems := cutItems?_eq_none_iff depth ("," ++ newLine depth) items
    rw [List.forall_mem_cons, ← hitem, ← hitems, cutItems?, Option.or_eq_none_iff,
      Option.map_eq_none_iff]

theorem cutFields?_eq_none_iff (depth : Nat) (lead : String) :
    (fields : List (Key × Json)) → (cutFields? depth lead fields = none ↔
      ∀ field ∈ fields, isTooLong (ofKey field.1) = false ∧ IsShort field.2)
  | [] => by simp [cutFields?]
  | (key, value) :: fields => by
    have hvalue := cutAt?_eq_none_iff depth "" value
    have hfields := cutFields?_eq_none_iff depth ("," ++ newLine depth) fields
    rw [List.forall_mem_cons, ← hvalue, ← hfields, cutFields?]
    cases isTooLong (ofKey key) <;> simp

end

theorem cut?_eq_none_iff : value.cut? = none ↔ IsShort value :=
  cutAt?_eq_none_iff 0 "" value

/-- What is left of a text that was cut is how the text begins. -/
def Opens (cut : Option String) (whole : String) : Prop :=
  ∀ text, cut = some text → ∃ rest, whole = text ++ rest

section

variable {cut : Option String} {whole : String}

theorem Opens.map (h : Opens cut whole) (first : String) :
    Opens (cut.map (first ++ ·)) (first ++ whole) := by
  intro text ht
  obtain ⟨inner, hi, rfl⟩ := Option.map_eq_some_iff.mp ht
  obtain ⟨rest, rfl⟩ := h inner hi
  exact ⟨rest, String.append_assoc.symm⟩

theorem Opens.append (h : Opens cut whole) (last : String) : Opens cut (whole ++ last) := by
  intro text ht
  obtain ⟨rest, rfl⟩ := h text ht
  exact ⟨rest ++ last, String.append_assoc⟩

theorem opens_none (whole : String) : Opens none whole := nofun

theorem opens_empty (whole : String) : Opens (some "") whole := by
  intro text ht
  cases ht
  exact ⟨whole, String.empty_append.symm⟩

end

/-- Entries between brackets. -/
theorem block_of_ne_nil (opening closing : String) (depth : Nat) {entries : List String}
    (h : entries ≠ []) :
    block opening closing depth entries =
      opening ++ newLine (depth + 1) ++ ("," ++ newLine (depth + 1)).intercalate entries ++
        newLine depth ++ closing := by
  obtain ⟨entry, entries, rfl⟩ := List.exists_cons_of_ne_nil h
  rfl

theorem opens_int (n : Int) (depth : Nat) (lead whole : String) :
    Opens (cutAt? depth lead (int n)) whole := by
  rw [cutAt?]
  split
  · exact opens_empty whole
  · exact opens_none whole

/-- A cut lies in the first of some entries or behind it, where there is one more. -/
theorem Opens.or {first rest : Option String} {entry separator : String} {entries : List String}
    (hf : Opens first (lead ++ entry))
    (hr : Opens rest (separator ++ separator.intercalate entries)) (hn : entries = [] → rest = none) :
    Opens (first.or (rest.map (lead ++ entry ++ ·)))
      (lead ++ separator.intercalate (entry :: entries)) := by
  cases entries with
  | nil =>
    rw [hn rfl, Option.map_none, Option.or_none, String.intercalate_singleton]
    exact hf
  | cons next entries =>
    rw [String.intercalate_cons_cons, String.append_assoc, ← String.append_assoc]
    cases first with
    | some text => exact hf.append _
    | none => exact hr.map _

theorem cutItems?_of_nil {items : List Json} (h : indentedItems depth items = []) :
    cutItems? depth lead items = none := by
  cases items with
  | nil => rfl
  | cons => cases h

theorem cutFields?_of_nil {fields : List (Key × Json)} (h : indentedFields depth fields = []) :
    cutFields? depth lead fields = none := by
  cases fields with
  | nil => rfl
  | cons => cases h

mutual

/-- What is written before a number that is too long is how the whole text begins. -/
theorem opens_cutAt? (depth : Nat) (lead : String) : (value : Json) →
    Opens (cutAt? depth lead value) (lead ++ indentedAt depth value)
  | null => opens_none _
  | bool _ => opens_none _
  | int n => opens_int n depth lead _
  | float _ => opens_none _
  | str _ => opens_none _
  | torn _ => opens_none _
  | arr items => by
    have h := opens_cutItems? (depth + 1) ("[" ++ newLine (depth + 1)) items
    rw [cutAt?, indentedAt]
    by_cases he : indentedItems (depth + 1) items = []
    · rw [cutItems?_of_nil he]
      exact opens_none _
    · rw [block_of_ne_nil _ _ _ he]
      exact ((h.append _).append _).map lead
  | obj fields => by
    have h := opens_cutFields? (depth + 1) "" fields
    rw [cutAt?, indentedAt]
    by_cases he : indentedFields (depth + 1) fields = []
    · rw [cutFields?_of_nil he]
      exact opens_none _
    · rw [block_of_ne_nil _ _ _ he]
      simpa [String.append_assoc] using ((h.append _).append _).map (lead ++ "\x7b" ++ newLine (depth + 1))

theorem opens_cutItems? (depth : Nat) (lead : String) : (items : List Json) →
    Opens (cutItems? depth lead items)
      (lead ++ ("," ++ newLine depth).intercalate (indentedItems depth items))
  | [] => opens_none _
  | item :: items =>
    (opens_cutAt? depth lead item).or (opens_cutItems? depth ("," ++ newLine depth) items)
      cutItems?_of_nil

theorem opens_cutFields? (depth : Nat) (lead : String) : (fields : List (Key × Json)) →
    Opens (cutFields? depth lead fields)
      (lead ++ ("," ++ newLine depth).intercalate (indentedFields depth fields))
  | [] => opens_none _
  | (key, value) :: fields => by
    have hvalue := (opens_cutAt? depth "" value).map (lead ++ keyText key ++ ": ")
    have hfields := opens_cutFields? depth ("," ++ newLine depth) fields
    have hentry : lead ++ keyText key ++ ": " ++ ("" ++ indentedAt depth value) =
        lead ++ (keyText key ++ ": " ++ indentedAt depth value) := by simp [String.append_assoc]
    rw [hentry] at hvalue
    rw [cutFields?, indentedFields]
    split
    · exact opens_empty _
    · have h := hvalue.or hfields cutFields?_of_nil
      simpa [String.append_assoc] using h

end

end TapeMachine.Json
