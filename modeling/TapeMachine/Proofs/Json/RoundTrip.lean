import Mathlib.Data.List.Forall2
import Mathlib.Tactic.Convert
import TapeMachine.Proofs.Json.Cuts
import TapeMachine.Proofs.Json.Numbers
import TapeMachine.Proofs.Json.Strings

namespace TapeMachine.Json

open Text

variable {depth level : Nat} {text rest opening gap closing : List Char} {value : Json}
variable {items : List Json} {parts : List (List Char)} {fields : Fields}

/-- What can be read as a value: it begins with neither a blank nor the end of a list, and the
reader takes all of it where no number goes on. -/
structure Reads (depth : Nat) (text : List Char) (value : Json) : Prop where
  starts : ∃ c tail, text = c :: tail ∧ isSpace c = false ∧ c ≠ ']' ∧ c ≠ '\ufeff'
  reads : ∀ budget rest, 2 * text.length ≤ budget → endsNumber rest = true →
    readValue depth budget (text ++ rest) = .ok (value, rest)

/-- A text is not empty, so there is a budget to read it with. -/
theorem reads_cons {c : Char} {tail : List Char} (hs : isSpace c = false) (hb : c ≠ ']')
    (hm : c ≠ '\ufeff')
    (hr : ∀ budget rest, 2 * tail.length + 1 ≤ budget → endsNumber rest = true →
      readValue depth (budget + 1) (c :: (tail ++ rest)) = .ok (value, rest)) :
    Reads depth (c :: tail) value where
  starts := ⟨c, tail, rfl, hs, hb, hm⟩
  reads := by
    intro budget rest hbudget hrest
    rw [List.length_cons] at hbudget
    have hpos : 1 ≤ budget := by omega
    obtain ⟨budget, rfl⟩ := Nat.exists_eq_add_of_le' hpos
    exact hr budget rest (by omega) hrest

/-- Texts that are written from values one by one are read as these. -/
theorem forall₂_map_self {α β : Type} {reads : β → α → Prop} {write : α → β} {xs : List α}
    (h : ∀ x ∈ xs, reads (write x) x) : List.Forall₂ reads (xs.map write) xs := by
  rw [List.forall₂_map_left_iff, List.forall₂_same]
  exact h

theorem skipSpace_append (hg : ∀ c ∈ gap, isSpace c = true) {c : Char}
    (hc : isSpace c = false) (tail : List Char) : skipSpace (gap ++ c :: tail) = c :: tail := by
  rw [skipSpace, List.dropWhile_append_of_pos hg]
  simp [hc]

theorem endsNumber_gap (hg : ∀ c ∈ gap, isSpace c = true) (hr : endsNumber rest = true) :
    endsNumber (gap ++ rest) = true := by
  cases gap with
  | nil => exact hr
  | cons c gap =>
    have hc := hg c List.mem_cons_self
    simp only [isSpace, Bool.or_eq_true, beq_iff_eq] at hc
    rcases hc with ((rfl | rfl) | rfl) | rfl <;> rfl

/-- Items with commas between them, and what closes their list. -/
def listed (gap closing : List Char) (parts : List (List Char)) (mark : Char) : List Char :=
  (',' :: gap).intercalate parts ++ (closing ++ [mark])

theorem listed_singleton (gap closing part : List Char) (mark : Char) :
    listed gap closing [part] mark = part ++ (closing ++ [mark]) := by
  simp [listed]

theorem listed_cons_cons (gap closing part next : List Char) (parts : List (List Char))
    (mark : Char) :
    listed gap closing (part :: next :: parts) mark =
      part ++ ',' :: (gap ++ listed gap closing (next :: parts) mark) := by
  simp [listed]

/-- The blanks before a list are passed over where it begins with none. -/
theorem skipSpace_listed {lead tail : List Char} {c mark : Char}
    (hb : ∀ c ∈ lead, isSpace c = true) (hl : listed gap closing parts mark = c :: tail)
    (hc : isSpace c = false) (rest : List Char) :
    skipSpace (lead ++ (listed gap closing parts mark ++ rest)) =
      listed gap closing parts mark ++ rest := by
  rw [hl, List.cons_append]
  exact skipSpace_append hb hc _

/-- A list has a mark at least, so there is a budget to read it with. -/
theorem exists_succ_of_listed {budget : Nat} {mark : Char}
    (hb : 2 * (listed gap closing parts mark).length ≤ budget) :
    ∃ smaller, budget = smaller + 1 := by
  refine Nat.exists_eq_add_of_le' ?_
  simp only [listed, List.length_append, List.length_singleton] at hb
  omega

theorem Reads.skipSpace (h : Reads depth text value) (hg : ∀ c ∈ gap, isSpace c = true)
    (rest : List Char) : skipSpace (gap ++ (text ++ rest)) = text ++ rest := by
  obtain ⟨c, tail, rfl, hc, _⟩ := h.starts
  exact skipSpace_append hg hc _

theorem starts_listed (h : List.Forall₂ (Reads depth) parts items) (hp : parts ≠ [])
    (gap closing : List Char) (mark : Char) :
    ∃ c tail, listed gap closing parts mark = c :: tail ∧ isSpace c = false ∧ c ≠ ']' := by
  cases h with
  | nil => exact absurd rfl hp
  | @cons part item parts items hr ht =>
    obtain ⟨c, tail, rfl, hc, hb, _⟩ := hr.starts
    cases parts with
    | nil => exact ⟨c, _, by rw [listed_singleton]; rfl, hc, hb⟩
    | cons next parts => exact ⟨c, _, by rw [listed_cons_cons]; rfl, hc, hb⟩

theorem readItems_listed (hg : ∀ c ∈ gap, isSpace c = true)
    (hc : ∀ c ∈ closing, isSpace c = true) (h : List.Forall₂ (Reads depth) parts items)
    (hp : parts ≠ []) (done : List Json) {budget : Nat}
    (hb : 2 * (listed gap closing parts ']').length ≤ budget) :
    readItems depth budget done (listed gap closing parts ']' ++ rest) =
      .ok (arr (done.reverse ++ items), rest) := by
  induction h generalizing done budget with
  | nil => exact absurd rfl hp
  | @cons part item parts items hr ht ih =>
    obtain ⟨budget, rfl⟩ := exists_succ_of_listed hb
    rw [readItems]
    cases parts with
    | nil =>
      cases ht
      rw [listed_singleton] at hb ⊢
      simp only [List.length_append, List.length_singleton] at hb
      rw [List.append_assoc, hr.reads budget _ (by omega)
        (by rw [List.append_assoc]; exact endsNumber_gap hc rfl)]
      simp only
      rw [List.append_assoc, List.singleton_append, skipSpace_append hc (by decide)]
      simp
    | cons next parts =>
      rw [listed_cons_cons] at hb ⊢
      simp only [List.length_append, List.length_cons] at hb
      have hread := hr.reads budget
        (',' :: (gap ++ listed gap closing (next :: parts) ']') ++ rest) (by omega) rfl
      rw [List.append_assoc, hread]
      simp only [List.cons_append]
      obtain ⟨c, tail, hl, hs, _⟩ := starts_listed ht (by simp) gap closing ']'
      have hskip : Json.skipSpace (gap ++ listed gap closing (next :: parts) ']' ++ rest) =
          listed gap closing (next :: parts) ']' ++ rest := by
        rw [List.append_assoc]
        exact skipSpace_listed hg hl hs rest
      have hcomma : Json.skipSpace (',' :: (gap ++ listed gap closing (next :: parts) ']' ++ rest)) =
          ',' :: (gap ++ listed gap closing (next :: parts) ']' ++ rest) := rfl
      rw [hcomma]
      simp only [hskip]
      rw [ih (by simp) (item :: done) (by omega)]
      simp

theorem reads_arr (ho : ∀ c ∈ opening, isSpace c = true) (hg : ∀ c ∈ gap, isSpace c = true)
    (hc : ∀ c ∈ closing, isSpace c = true) (h : List.Forall₂ (Reads depth) parts items)
    (hp : parts ≠ []) :
    Reads (depth + 1) ('[' :: (opening ++ listed gap closing parts ']')) (arr items) := by
  refine reads_cons (by decide) (by decide) (by decide) fun budget rest hb _ => ?_
  rw [List.length_append] at hb
  obtain ⟨c, tail, hl, hs, hn⟩ := starts_listed h hp gap closing ']'
  have hskip : Json.skipSpace (opening ++ listed gap closing parts ']' ++ rest) =
      listed gap closing parts ']' ++ rest := by
    rw [List.append_assoc]
    exact skipSpace_listed ho hl hs rest
  have hread : readItems depth budget [] (listed gap closing parts ']' ++ rest) =
      .ok (arr items, rest) := readItems_listed hg hc h hp [] (by omega)
  rw [readValue.eq_3, if_neg (by omega), hskip, Nat.add_sub_cancel]
  split
  next he =>
    rw [hl, List.cons_append] at he
    exact absurd (List.cons.inj he).1 hn
  next => exact hread

theorem reads_arr_nil (depth : Nat) : Reads (depth + 1) ['[', ']'] (arr []) :=
  reads_cons (by decide) (by decide) (by decide) fun _ _ _ _ => rfl

/-- A field as it is written: its name in quotes, a colon and a value. -/
structure ReadsField (depth : Nat) (text : List Char) (field : Key × Json) : Prop where
  exists_name : ∃ name value, field.1 = .text name ∧ Reads depth value field.2 ∧
    text = '"' :: (name.toList.flatMap escape ++ '"' :: ':' :: ' ' :: value)

/-- The name of a field is read, and its value is left. -/
theorem readName_field (name : String) (h : Reads depth text value) (rest : List Char) :
    readName ('"' :: (name.toList.flatMap escape ++ '"' :: ':' :: ' ' :: (text ++ rest))) =
      .ok (.text name, text ++ rest) := by
  have hskip : Json.skipSpace ([' '] ++ (text ++ rest)) = text ++ rest :=
    h.skipSpace (by simp [isSpace]) rest
  rw [readName, readString_text, String.ofList_toList]
  change Except.ok (Key.text name, Json.skipSpace ([' '] ++ (text ++ rest))) = _
  rw [hskip]

theorem starts_fields (h : List.Forall₂ (ReadsField depth) parts fields) (hp : parts ≠ [])
    (gap closing : List Char) (mark : Char) :
    ∃ tail, listed gap closing parts mark = '"' :: tail := by
  cases h with
  | nil => exact absurd rfl hp
  | @cons part field parts fields hr ht =>
    obtain ⟨name, value, _, _, rfl⟩ := hr.exists_name
    cases parts with
    | nil => exact ⟨_, by rw [listed_singleton]; rfl⟩
    | cons next parts => exact ⟨_, by rw [listed_cons_cons]; rfl⟩

theorem readFields_listed (hg : ∀ c ∈ gap, isSpace c = true)
    (hc : ∀ c ∈ closing, isSpace c = true) (h : List.Forall₂ (ReadsField depth) parts fields)
    (hp : parts ≠ []) (done : Fields) {budget : Nat}
    (hb : 2 * (listed gap closing parts '}').length ≤ budget) :
    readFields depth budget done (listed gap closing parts '}' ++ rest) =
      .ok (obj (Dictionary.ofPairs (done.reverse ++ fields)), rest) := by
  induction h generalizing done budget with
  | nil => exact absurd rfl hp
  | @cons part field parts fields hr ht ih =>
    obtain ⟨budget, rfl⟩ := exists_succ_of_listed hb
    obtain ⟨key, item⟩ := field
    obtain ⟨name, value, rfl, hv, rfl⟩ := hr.exists_name
    rw [readFields]
    cases parts with
    | nil =>
      cases ht
      rw [listed_singleton] at hb ⊢
      simp only [List.length_append, List.length_cons] at hb
      simp only [List.cons_append, List.append_assoc]
      rw [readName_field name hv]
      simp only
      rw [hv.reads budget _ (by omega) (endsNumber_gap hc rfl)]
      simp only
      rw [List.nil_append, skipSpace_append hc (by decide)]
      simp
    | cons next parts =>
      rw [listed_cons_cons] at hb ⊢
      simp only [List.length_append, List.length_cons] at hb
      simp only [List.cons_append, List.append_assoc]
      obtain ⟨tail, hl⟩ := starts_fields ht (by simp) gap closing '}'
      have hskip := skipSpace_listed hg hl (by decide) rest
      have hcomma : ∀ rest, Json.skipSpace (',' :: rest) = ',' :: rest := fun _ => rfl
      rw [readName_field name hv]
      simp only
      rw [hv.reads budget _ (by omega) rfl]
      simp only [hcomma, hskip]
      rw [ih (by simp) ((.text name, item) :: done) (by omega)]
      simp

theorem reads_obj (ho : ∀ c ∈ opening, isSpace c = true) (hg : ∀ c ∈ gap, isSpace c = true)
    (hc : ∀ c ∈ closing, isSpace c = true) (h : List.Forall₂ (ReadsField depth) parts fields)
    (hp : parts ≠ []) :
    Reads (depth + 1) ('{' :: (opening ++ listed gap closing parts '}'))
      (obj (Dictionary.ofPairs fields)) := by
  refine reads_cons (by decide) (by decide) (by decide) fun budget rest hb _ => ?_
  rw [List.length_append] at hb
  obtain ⟨tail, hl⟩ := starts_fields h hp gap closing '}'
  have hskip : Json.skipSpace (opening ++ listed gap closing parts '}' ++ rest) =
      listed gap closing parts '}' ++ rest := by
    rw [List.append_assoc]
    exact skipSpace_listed ho hl (by decide) rest
  have hread : readFields depth budget [] (listed gap closing parts '}' ++ rest) =
      .ok (obj (Dictionary.ofPairs fields), rest) := readFields_listed hg hc h hp [] (by omega)
  rw [readValue.eq_4, if_neg (by omega), hskip, Nat.add_sub_cancel]
  -- A field begins with its name, so this is not the object with no fields.
  split
  next he =>
    rw [hl, List.cons_append] at he
    exact absurd (List.cons.inj he).1 (by decide)
  next => exact hread

theorem reads_obj_nil (depth : Nat) : Reads (depth + 1) ['{', '}'] (obj []) :=
  reads_cons (by decide) (by decide) (by decide) fun _ _ _ _ => rfl

theorem reads_str (depth : Nat) (s : String) : Reads depth (stringText s).toList (str s) := by
  rw [stringText, String.toList_ofList, List.cons_append]
  refine reads_cons (by decide) (by decide) (by decide) fun budget rest _ _ => ?_
  rw [readValue.eq_2, readText, List.append_assoc, List.singleton_append, readString_text,
    String.ofList_toList]
  rfl

/-- What is read as a word or a number is read as a value. -/
theorem reads_simple {c : Char} {tail : List Char} (ht : text = c :: tail)
    (hs : isSpace c = false) (hn : c ∉ ['"', '[', '{', ']', '\ufeff'])
    (hr : ∀ rest, endsNumber rest = true → readSimple (text ++ rest) = .ok (value, rest)) :
    Reads depth text value := by
  simp only [List.mem_cons, List.not_mem_nil, or_false, not_or] at hn
  obtain ⟨hquote, hlist, hobject, hend, hmark⟩ := hn
  subst ht
  refine reads_cons hs hend hmark fun budget rest _ he => ?_
  rw [← hr rest he]
  exact readValue.eq_5 depth _ budget (fun _ he => hquote (List.cons.inj he).1)
    (fun _ he => hlist (List.cons.inj he).1) (fun _ he => hobject (List.cons.inj he).1)

theorem reads_null (depth : Nat) : Reads depth "null".toList null :=
  reads_simple rfl (by decide) (by decide) fun _ _ => rfl

theorem reads_bool (depth : Nat) (b : Bool) :
    Reads depth (if b then "true" else "false").toList (bool b) := by
  cases b with
  | true => exact reads_simple (c := 't') rfl (by decide) (by decide) fun _ _ => rfl
  | false => exact reads_simple (c := 'f') rfl (by decide) (by decide) fun _ _ => rfl

theorem reads_int {n : Int} (hn : (Nat.toDigits 10 n.natAbs).length ≤ maxDigits) (depth : Nat) :
    Reads depth (toString n).toList (int n) := by
  obtain ⟨c, tail, ht, hc⟩ : ∃ c tail, (toString n).toList = c :: tail ∧
      (c = '-' ∨ isAsciiDigit c = true) := by
    rw [toList_toString]
    by_cases hz : n < 0
    · exact ⟨'-', Nat.toDigits 10 n.natAbs, by simp [hz], .inl rfl⟩
    · obtain ⟨d, digits, hd⟩ := List.exists_cons_of_ne_nil
        (Nat.toDigits_ne_nil (n := n.natAbs) (b := 10))
      exact ⟨d, digits, by simp [hz, hd],
        .inr (isAsciiDigit_of_mem_toDigits (n := n.natAbs) (by rw [hd]; exact List.mem_cons_self))⟩
  refine reads_simple ht ?_ ?_ fun rest hr => readSimple_int hn hr
  · rcases hc with rfl | hc
    · decide
    · cases hs : isSpace c with
      | false => rfl
      | true =>
        simp only [isSpace, Bool.or_eq_true, beq_iff_eq] at hs
        rcases hs with ((rfl | rfl) | rfl) | rfl <;> exact absurd hc (by decide)
  · intro hm
    rcases hc with rfl | hc
    · exact absurd hm (by decide)
    · simp only [List.mem_cons, List.not_mem_nil, or_false] at hm
      rcases hm with rfl | rfl | rfl | rfl | rfl <;> exact absurd hc (by decide)

/-- A value that is read back from its written form: its lists and objects lie at most `depth`
deep, its texts are whole, its integers are not too long, and its names are texts that differ.
Floating numbers are left out. -/
inductive Legible : Nat → Json → Prop
  | null {depth : Nat} : Legible depth null
  | bool {depth : Nat} (b : Bool) : Legible depth (bool b)
  | int {depth : Nat} {n : Int} (h : (Nat.toDigits 10 n.natAbs).length ≤ maxDigits) :
      Legible depth (int n)
  | str {depth : Nat} (s : String) : Legible depth (str s)
  | arr {depth : Nat} {items : List Json} (h : ∀ item ∈ items, Legible depth item) :
      Legible (depth + 1) (arr items)
  | obj {depth : Nat} {fields : Fields} (names : ∀ field ∈ fields, ∃ s, field.1 = .text s)
      (nodup : (fields.map fun field => field.1.identity).Nodup)
      (h : ∀ field ∈ fields, Legible depth field.2) : Legible (depth + 1) (obj fields)

/-- What can be read back can be written whole. -/
theorem Legible.isShort (h : Legible depth value) : IsShort value := by
  induction h with
  | null => exact .null
  | bool b => exact .bool b
  | @int depth n hn =>
    refine .int (isTooLong_int_eq_false_iff.mpr ?_)
    exact (Nat.length_toDigits_le_iff (by decide) (by decide)).mp hn
  | str s => exact .str s
  | arr _ ih => exact .arr ih
  | @obj depth fields names _ _ ih =>
    refine .obj (fun field hf => ?_) ih
    obtain ⟨name, hn⟩ := names field hf
    rw [hn]
    rfl

theorem setAll_of_nodup (entries changes : Fields)
    (h : ((entries ++ changes).map fun field => field.1.identity).Nodup) :
    Dictionary.setAll entries changes = entries ++ changes := by
  induction changes generalizing entries with
  | nil => simp [Dictionary.setAll]
  | cons change changes ih =>
    have hset : Dictionary.set entries change.1 change.2 = entries ++ [change] := by
      have hne : ∀ entry ∈ entries, (entry.1 == change.1) = false := by
        intro entry he
        rw [← Bool.not_eq_true, Key.beq_iff]
        rw [List.map_append, List.nodup_append] at h
        exact h.2.2 _ (List.mem_map_of_mem he) _ (by simp)
      clear h ih
      induction entries with
      | nil => rfl
      | cons entry entries ih =>
        have hf := hne entry (by simp)
        rw [Dictionary.set]
        simp [hf, ih fun other ho => hne other (List.mem_cons_of_mem entry ho)]
    rw [Dictionary.setAll, List.foldl_cons, hset]
    have ht := ih (entries ++ [change]) (by simpa using h)
    rw [Dictionary.setAll] at ht
    rw [ht]
    simp

/-- Fields with names of their own are a dictionary. -/
theorem ofPairs_of_nodup {fields : Fields}
    (h : (fields.map fun field => field.1.identity).Nodup) :
    Dictionary.ofPairs fields = fields :=
  setAll_of_nodup [] fields h

theorem compactItems_eq_map (items : List Json) : compactItems items = items.map compact := by
  induction items with
  | nil => rfl
  | cons item items ih => rw [compactItems, ih, List.map_cons]

theorem compactFields_eq_map (fields : Fields) :
    compactFields fields = fields.map fun field => keyText field.1 ++ ": " ++ compact field.2 := by
  induction fields with
  | nil => rfl
  | cons field fields ih => rw [compactFields, ih, List.map_cons]

theorem indentedItems_eq_map (level : Nat) (items : List Json) :
    indentedItems level items = items.map (indentedAt level) := by
  induction items with
  | nil => rfl
  | cons item items ih => rw [indentedItems, ih, List.map_cons]

theorem indentedFields_eq_map (level : Nat) (fields : Fields) :
    indentedFields level fields =
      fields.map fun field => keyText field.1 ++ ": " ++ indentedAt level field.2 := by
  induction fields with
  | nil => rfl
  | cons field fields ih => rw [indentedFields, ih, List.map_cons]

/-- A field is written as its name and its value are, whatever the layout. -/
theorem readsField_written {field : Key × Json} {written : String}
    (hn : ∃ s, field.1 = .text s) (h : Reads depth written.toList field.2) :
    ReadsField depth (keyText field.1 ++ ": " ++ written).toList field := by
  obtain ⟨name, hn⟩ := hn
  refine ⟨name, written.toList, hn, h, ?_⟩
  rw [hn, keyText, stringText]
  simp only [String.toList_append, String.toList_ofList]
  simp

/-- A value is read back from one line. -/
theorem reads_compact (h : Legible depth value) : Reads depth value.compact.toList value := by
  have hnone : ∀ c ∈ ([] : List Char), isSpace c = true := by simp
  have hblank : ∀ c ∈ [' '], isSpace c = true := by simp [isSpace]
  induction h with
  | null => exact reads_null _
  | bool b => cases b with
    | true => exact reads_bool _ true
    | false => exact reads_bool _ false
  | int hn => exact reads_int hn _
  | str s => exact reads_str _ s
  | @arr depth items _ ih =>
    rw [compact, compactItems_eq_map]
    by_cases hi : items = []
    · subst hi
      exact reads_arr_nil depth
    · have hp : List.Forall₂ (Reads depth) (items.map fun item => item.compact.toList) items :=
        forall₂_map_self ih
      have hr := reads_arr hnone hblank hnone hp (by simpa using hi)
      convert hr using 1
      simp [listed, Function.comp_def]
  | @obj depth fields names nodup _ ih =>
    rw [compact, compactFields_eq_map]
    by_cases hf : fields = []
    · subst hf
      exact reads_obj_nil depth
    · have hp : List.Forall₂ (ReadsField depth)
          (fields.map fun field => (keyText field.1 ++ ": " ++ field.2.compact).toList) fields :=
        forall₂_map_self fun field hm => readsField_written (names field hm) (ih field hm)
      have hr := reads_obj hnone hblank hnone hp (by simpa using hf)
      rw [ofPairs_of_nodup nodup] at hr
      convert hr using 1
      simp [listed, Function.comp_def]

theorem isSpace_newLine (level : Nat) : ∀ c ∈ (newLine level).toList, isSpace c = true := by
  intro c hc
  rw [newLine, String.toList_ofList] at hc
  rcases List.mem_cons.mp hc with rfl | hc
  · decide
  · rw [List.eq_of_mem_replicate hc]
    decide

theorem toList_block (start finish : Char) (level : Nat) (entries : List String)
    (h : entries ≠ []) :
    (block start.toString finish.toString level entries).toList =
      start :: ((newLine (level + 1)).toList ++
        listed (newLine (level + 1)).toList (newLine level).toList (entries.map String.toList)
          finish) := by
  obtain ⟨entry, entries, rfl⟩ := List.exists_cons_of_ne_nil h
  simp [block, listed]

/-- A value is read back from several lines. -/
theorem reads_indentedAt (h : Legible depth value) (level : Nat) :
    Reads depth (indentedAt level value).toList value := by
  induction h generalizing level with
  | null => exact reads_null _
  | bool b => cases b with
    | true => exact reads_bool _ true
    | false => exact reads_bool _ false
  | int hn => exact reads_int hn _
  | str s => exact reads_str _ s
  | @arr depth items _ ih =>
    rw [indentedAt, indentedItems_eq_map]
    by_cases hi : items = []
    · subst hi
      simpa [block] using reads_arr_nil depth
    · have hp : List.Forall₂ (Reads depth)
          (items.map fun item => (indentedAt (level + 1) item).toList) items :=
        forall₂_map_self fun item hm => ih item hm (level + 1)
      have hr := reads_arr (isSpace_newLine (level + 1)) (isSpace_newLine (level + 1))
        (isSpace_newLine level) hp (by simpa using hi)
      have ht := toList_block '[' ']' level (items.map (indentedAt (level + 1)))
        (by simpa using hi)
      rw [List.map_map] at ht
      exact ht ▸ hr
  | @obj depth fields names nodup _ ih =>
    rw [indentedAt, indentedFields_eq_map]
    by_cases hf : fields = []
    · subst hf
      simpa [block] using reads_obj_nil depth
    · have hp : List.Forall₂ (ReadsField depth) (fields.map fun field =>
          (keyText field.1 ++ ": " ++ indentedAt (level + 1) field.2).toList) fields :=
        forall₂_map_self fun field hm =>
          readsField_written (names field hm) (ih field hm (level + 1))
      have hr := reads_obj (isSpace_newLine (level + 1)) (isSpace_newLine (level + 1))
        (isSpace_newLine level) hp (by simpa using hf)
      have ht := toList_block '{' '}' level (fields.map fun field =>
        keyText field.1 ++ ": " ++ indentedAt (level + 1) field.2) (by simpa using hf)
      rw [ofPairs_of_nodup nodup] at hr
      rw [List.map_map] at ht
      exact ht ▸ hr

theorem read_of_reads {written : String} (h : Reads maxDepth written.toList value) :
    Json.read written = .ok value := by
  obtain ⟨c, tail, ht, hs, _, hb⟩ := h.starts
  have hskip : skipSpace written.toList = written.toList := by
    rw [ht]
    have hnone : ∀ c ∈ ([] : List Char), isSpace c = true := by simp
    exact skipSpace_append hnone hs tail
  have hread := h.reads (2 * written.toList.length + 2) [] (by omega) rfl
  rw [List.append_nil] at hread
  have hchars : readChars written.toList = .ok value := by
    unfold readChars
    split
    next he =>
      rw [ht] at he
      exact absurd (List.cons.inj he).1 hb
    next =>
      rw [hskip, hread]
      rfl
  rw [Json.read, hchars]

theorem read_compact (h : Legible maxDepth value) : Json.read value.compact = .ok value :=
  read_of_reads (reads_compact h)

theorem read_indented (h : Legible maxDepth value) : Json.read value.indented = .ok value :=
  read_of_reads (reads_indentedAt h 0)

end TapeMachine.Json
