import TapeMachine.Proofs.Json.RoundTrip
import TapeMachine.Proofs.Text.Lines

namespace TapeMachine.Json

open Text

variable {level : Nat} {c : Char}

/-- The characters that written JSON is made of: those of visible ASCII, and line feeds. -/
def IsVisible (c : Char) : Prop :=
  32 ≤ c.toNat ∧ c.toNat ≤ 126

instance (c : Char) : Decidable (IsVisible c) :=
  inferInstanceAs (Decidable (_ ∧ _))

/-- The characters of a text are visible if a look at each of them finds so. -/
theorem isVisible_of_all (text : String) (h : (text.toList.all fun c => IsVisible c) = true) :
    ∀ c ∈ text.toList, IsVisible c := by
  simpa using h

theorem isVisible_hex {width n : Nat} (h : c ∈ hex width n) : IsVisible c := by
  have hd : ∀ d < 16, IsVisible (Nat.digitChar d) := by decide
  induction width generalizing n with
  | zero => simp [hex] at h
  | succ width ih =>
    rw [hex, List.mem_append, List.mem_singleton] at h
    rcases h with h | rfl
    · exact ih h
    · exact hd _ (Nat.mod_lt _ (by decide))

theorem isVisible_unitEscape {unit : Nat} (h : c ∈ unitEscape unit) : IsVisible c := by
  rw [unitEscape] at h
  rcases List.mem_cons.mp h with rfl | h
  · decide
  rcases List.mem_cons.mp h with rfl | h
  · decide
  · exact isVisible_hex h

theorem isVisible_escape {d : Char} (h : c ∈ escape d) : IsVisible c := by
  have hwritten := escaped_escape d
  generalize escape d = written at h hwritten
  cases hwritten with
  | letter hl =>
    rcases List.mem_pair.mp h with rfl | rfl
    · decide
    · exact (simpleEscape?_bounds hl).1
  | plain _ _ hd =>
    rw [List.mem_singleton.mp h]
    exact hd
  | unit _ => exact isVisible_unitEscape h
  | pair _ => exact (List.mem_append.mp h).elim isVisible_unitEscape isVisible_unitEscape

theorem isVisible_stringText {s : String} (h : c ∈ (stringText s).toList) : IsVisible c := by
  rw [stringText, String.toList_ofList, List.cons_append, List.mem_cons, List.mem_append,
    List.mem_singleton, List.mem_flatMap] at h
  rcases h with rfl | ⟨d, _, h⟩ | rfl
  · decide
  · exact isVisible_escape h
  · decide

theorem isVisible_of_mem_toDigits {n : Nat} (h : c ∈ Nat.toDigits 10 n) : IsVisible c := by
  have hd := isAsciiDigit_of_mem_toDigits h
  simp only [isAsciiDigit, Bool.and_eq_true, decide_eq_true_eq] at hd
  have h0 : '0'.toNat ≤ c.toNat := UInt32.le_iff_toNat_le.mp hd.1
  have h9 : c.toNat ≤ '9'.toNat := UInt32.le_iff_toNat_le.mp hd.2
  exact ⟨Nat.le_trans (by decide) h0, Nat.le_trans h9 (by decide)⟩

theorem isVisible_toString {n : Int} (h : c ∈ (toString n).toList) : IsVisible c := by
  rw [toList_toString, List.mem_append] at h
  rcases h with h | h
  · split at h
    · rw [List.mem_singleton.mp h]
      decide
    · simp at h
  · exact isVisible_of_mem_toDigits h

theorem isVisible_tornText {points : List Nat} (h : c ∈ (tornText points).toList) :
    IsVisible c := by
  rw [tornText, String.toList_ofList, List.cons_append, List.mem_cons, List.mem_append,
    List.mem_singleton, List.mem_flatMap] at h
  rcases h with rfl | ⟨point, _, h⟩ | rfl
  · decide
  · split at h
    · exact isVisible_unitEscape h
    · exact isVisible_escape h
  · decide

section Floats

open Decimal

variable {digits : List Char} {leading : Int}

theorem isVisible_zerosText {count : Nat} (h : c ∈ zerosText count) : IsVisible c := by
  rw [List.eq_of_mem_replicate h]
  decide

theorem isVisible_withoutFinalZeros (hd : ∀ c ∈ digits, IsVisible c)
    (h : c ∈ withoutFinalZeros digits) : IsVisible c := by
  unfold withoutFinalZeros at h
  split at h
  · rw [List.mem_singleton.mp h]
    decide
  · rw [List.mem_reverse] at h
    exact hd c (List.mem_reverse.mp ((List.dropWhile_sublist _).subset h))

theorem isVisible_positional (hd : ∀ c ∈ digits, IsVisible c) (pointed : Bool)
    (h : c ∈ positional pointed digits leading) : IsVisible c := by
  have hzero : IsVisible '0' := by decide
  have hpoint : IsVisible '.' := by decide
  unfold positional at h
  split at h
  · simp only [List.mem_cons, List.cons_append, List.mem_append] at h
    rcases h with rfl | rfl | h | h
    · exact hzero
    · exact hpoint
    · exact isVisible_zerosText h
    · exact hd c h
  · have hwhole : c ∈ digits.take (leading.toNat + 1) ++
        zerosText (leading.toNat + 1 - digits.length) → IsVisible c := by
      rw [List.mem_append]
      exact fun h => h.elim (fun h => hd c (List.mem_of_mem_take h)) isVisible_zerosText
    simp only at h
    split at h
    · rw [List.mem_append, List.mem_cons] at h
      rcases h with h | rfl | h
      · exact hwhole h
      · exact hpoint
      · exact hd c (List.mem_of_mem_drop h)
    · split at h
      · rw [List.mem_append, List.mem_cons, List.mem_singleton] at h
        rcases h with h | rfl | rfl
        · exact hwhole h
        · exact hpoint
        · exact hzero
      · exact hwhole h

theorem isVisible_exponentText {exponent : Int} (h : c ∈ exponentText exponent) : IsVisible c := by
  unfold exponentText at h
  simp only [List.cons_append, List.mem_cons, List.mem_append] at h
  rcases h with rfl | h | h
  · split <;> decide
  · exact isVisible_zerosText h
  · exact isVisible_of_mem_toDigits h

theorem isVisible_scientific (hd : ∀ c ∈ digits, IsVisible c)
    (h : c ∈ scientific digits leading) : IsVisible c := by
  unfold scientific at h
  simp only [List.mem_append, List.mem_cons] at h
  rcases h with (h | h) | rfl | h
  · exact hd c (List.mem_of_mem_take h)
  · split at h
    · simp at h
    · rcases List.mem_cons.mp h with rfl | h
      · decide
      · exact hd c (List.mem_of_mem_tail h)
  · decide
  · exact isVisible_exponentText h

theorem isVisible_write {decimal : Digits} (h : c ∈ Decimal.Style.value.write decimal) :
    IsVisible c := by
  have hd : ∀ c ∈ withoutFinalZeros (Nat.toDigits 10 decimal.digits), IsVisible c := fun _ hc =>
    isVisible_withoutFinalZeros (fun _ => isVisible_of_mem_toDigits) hc
  unfold Decimal.Style.write at h
  simp only at h
  split at h
  · exact isVisible_positional hd _ h
  · exact isVisible_scientific hd h

theorem isVisible_signed {negative : Bool} {text : List Char} (ht : ∀ c ∈ text, IsVisible c)
    (h : c ∈ (signed negative text).toList) : IsVisible c := by
  rw [signed, String.toList_ofList] at h
  split at h
  · rcases List.mem_cons.mp h with rfl | h
    · decide
    · exact ht c h
  · exact ht c h

theorem isVisible_shortestText {x : Float} (h : c ∈ (shortestText x).toList) : IsVisible c := by
  unfold shortestText at h
  split at h
  · exact isVisible_of_all "nan" (by decide) c h
  · exact isVisible_signed (isVisible_of_all "inf" (by decide)) h
  · exact isVisible_signed (isVisible_of_all "0.0" (by decide)) h
  · exact isVisible_signed (fun _ => isVisible_write) h

theorem isVisible_floatText {x : Float} (h : c ∈ (floatText x).toList) : IsVisible c := by
  unfold floatText at h
  split at h
  · exact isVisible_of_all "NaN" (by decide) c h
  · exact isVisible_of_all "Infinity" (by decide) c h
  · exact isVisible_of_all "-Infinity" (by decide) c h
  · exact isVisible_shortestText h

end Floats

theorem isVisible_keyText {key : Key} (h : c ∈ (keyText key).toList) : IsVisible c := by
  unfold keyText at h
  split at h
  case h_2 => exact isVisible_tornText h
  all_goals exact isVisible_stringText h

theorem of_mem_field {key : Key} {written : String} {P : Char → Prop}
    (hP : ∀ c, IsVisible c → P c) (hw : ∀ c ∈ written.toList, P c)
    (h : c ∈ (keyText key ++ ": " ++ written).toList) : P c := by
  simp only [String.toList_append, List.mem_append] at h
  rcases h with (h | h) | h
  · exact hP c (isVisible_keyText h)
  · exact hP c (isVisible_of_all ": " (by decide) c h)
  · exact hw c h

theorem isVisible_joined (start finish : Char) (hs : IsVisible start) (hf : IsVisible finish)
    {texts : List String} (ht : ∀ text ∈ texts, ∀ c ∈ text.toList, IsVisible c) :
    ∀ c ∈ (start.toString ++ ", ".intercalate texts ++ finish.toString).toList, IsVisible c := by
  intro c hc
  simp only [String.toList_append, Char.toString_eq_singleton, String.toList_singleton,
    List.mem_append, List.mem_singleton] at hc
  rcases hc with (rfl | hc) | rfl
  · exact hs
  · rcases mem_intercalate hc with hc | ⟨text, hm, hc⟩
    · exact isVisible_of_all ", " (by decide) c hc
    · exact ht text hm c hc
  · exact hf

mutual

/-- Written on one line, a value has no other characters. -/
theorem isVisible_compact : (value : Json) → ∀ c ∈ value.compact.toList, IsVisible c
  | null => isVisible_of_all "null" (by decide)
  | bool true => isVisible_of_all "true" (by decide)
  | bool false => isVisible_of_all "false" (by decide)
  | int _ => fun _ => isVisible_toString
  | float _ => fun _ => isVisible_floatText
  | str _ => fun _ => isVisible_stringText
  | torn _ => fun _ => isVisible_tornText
  | arr items =>
    isVisible_joined '[' ']' (by decide) (by decide) (isVisible_compactItems items)
  | obj fields =>
    isVisible_joined '\x7b' '\x7d' (by decide) (by decide) (isVisible_compactFields fields)

theorem isVisible_compactItems : (items : List Json) →
    ∀ text ∈ compactItems items, ∀ c ∈ text.toList, IsVisible c
  | [] => nofun
  | item :: items => List.forall_mem_cons.mpr
    ⟨isVisible_compact item, isVisible_compactItems items⟩

theorem isVisible_compactFields : (fields : List (Key × Json)) →
    ∀ text ∈ compactFields fields, ∀ c ∈ text.toList, IsVisible c
  | [] => nofun
  | (_, value) :: fields => List.forall_mem_cons.mpr
    ⟨fun _ => of_mem_field (fun _ => id) (isVisible_compact value),
      isVisible_compactFields fields⟩

end

/-- The characters of what is laid out over several lines. -/
def IsLaidOut (c : Char) : Prop :=
  IsVisible c ∨ c = '\n'

theorem isLaidOut_newLine (h : c ∈ (newLine level).toList) : IsLaidOut c := by
  rw [newLine, String.toList_ofList] at h
  rcases List.mem_cons.mp h with rfl | h
  · exact .inr rfl
  · rw [List.eq_of_mem_replicate h]
    exact .inl (by decide)

theorem isLaidOut_block (start finish : Char) (hs : IsVisible start) (hf : IsVisible finish)
    {entries : List String} (he : ∀ entry ∈ entries, ∀ c ∈ entry.toList, IsLaidOut c) :
    ∀ c ∈ (block start.toString finish.toString level entries).toList, IsLaidOut c := by
  intro c hc
  cases entries with
  | nil =>
    simp only [block, String.toList_append, Char.toString_eq_singleton, String.toList_singleton,
      List.mem_append, List.mem_singleton] at hc
    rcases hc with rfl | rfl
    · exact .inl hs
    · exact .inl hf
  | cons entry entries =>
    simp only [block, String.toList_append, Char.toString_eq_singleton,
      String.toList_singleton, List.mem_append, List.mem_singleton] at hc
    rcases hc with (((rfl | hc) | hc) | hc) | rfl
    · exact .inl hs
    · exact isLaidOut_newLine hc
    · rcases mem_intercalate hc with hc | ⟨text, ht, hc⟩
      · rw [String.toList_append, List.mem_append] at hc
        exact hc.elim (fun hc => .inl (isVisible_of_all "," (by decide) c hc))
          isLaidOut_newLine
      · exact he text ht c hc
    · exact isLaidOut_newLine hc
    · exact .inl hf

mutual

/-- Written on several lines, a value has line feeds besides. -/
theorem isLaidOut_indentedAt : (value : Json) → (level : Nat) →
    ∀ c ∈ (indentedAt level value).toList, IsLaidOut c
  | null, _ => fun c hc => .inl (isVisible_of_all "null" (by decide) c hc)
  | bool true, _ => fun c hc => .inl (isVisible_of_all "true" (by decide) c hc)
  | bool false, _ => fun c hc => .inl (isVisible_of_all "false" (by decide) c hc)
  | int _, _ => fun _ hc => .inl (isVisible_toString hc)
  | float _, _ => fun _ hc => .inl (isVisible_floatText hc)
  | str _, _ => fun _ hc => .inl (isVisible_stringText hc)
  | torn _, _ => fun _ hc => .inl (isVisible_tornText hc)
  | arr items, level =>
    isLaidOut_block '[' ']' (by decide) (by decide) (isLaidOut_indentedItems items (level + 1))
  | obj fields, level =>
    isLaidOut_block '\x7b' '\x7d' (by decide) (by decide)
      (isLaidOut_indentedFields fields (level + 1))

theorem isLaidOut_indentedItems : (items : List Json) → (level : Nat) →
    ∀ text ∈ indentedItems level items, ∀ c ∈ text.toList, IsLaidOut c
  | [], _ => nofun
  | item :: items, level => List.forall_mem_cons.mpr
    ⟨isLaidOut_indentedAt item level, isLaidOut_indentedItems items level⟩

theorem isLaidOut_indentedFields : (fields : List (Key × Json)) → (level : Nat) →
    ∀ text ∈ indentedFields level fields, ∀ c ∈ text.toList, IsLaidOut c
  | [], _ => nofun
  | (_, value) :: fields, level => List.forall_mem_cons.mpr
    ⟨fun _ => of_mem_field (fun _ => .inl) (isLaidOut_indentedAt value level),
      isLaidOut_indentedFields fields level⟩

end

theorem return_notMem_indented (value : Json) : '\r' ∉ value.indented.toList := by
  intro hc
  rcases isLaidOut_indentedAt value 0 _ hc with hv | hv
  · exact absurd hv (by decide)
  · exact absurd hv (by decide)

/-- A text that is cut has no characters that the whole text has not. -/
theorem return_notMem_cut? {value : Json} {text : String} (h : value.cut? = some text) :
    '\r' ∉ text.toList := by
  obtain ⟨rest, hw⟩ := opens_cutAt? 0 "" value text h
  rw [String.empty_append] at hw
  intro hc
  refine return_notMem_indented value ?_
  rw [indented, hw, String.toList_append]
  exact List.mem_append_left _ hc

end TapeMachine.Json
