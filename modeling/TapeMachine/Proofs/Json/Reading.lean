import Mathlib.Algebra.Group.Nat.Defs
import Mathlib.Data.List.Induction
import TapeMachine.Proofs.Dictionary
import TapeMachine.Proofs.Json.Cuts
import TapeMachine.Proofs.Json.Numbers
import TapeMachine.Proofs.Text.Numerals

namespace TapeMachine

theorem Dictionary.forall_mem_set {κ β : Type} [BEq κ] {P : κ → Prop} {Q : β → Prop}
    {entries : Dictionary κ β} (h : ∀ entry ∈ entries, P entry.1 ∧ Q entry.2) {key : κ} {value : β}
    (hk : P key) (hv : Q value) : ∀ entry ∈ entries.set key value, P entry.1 ∧ Q entry.2 := by
  induction entries with
  | nil => exact List.forall_mem_singleton.mpr ⟨hk, hv⟩
  | cons first entries ih =>
    obtain ⟨hfirst, hrest⟩ := List.forall_mem_cons.mp h
    rw [Dictionary.set]
    split
    next => exact List.forall_mem_cons.mpr ⟨⟨hfirst.1, hv⟩, hrest⟩
    next => exact List.forall_mem_cons.mpr ⟨hfirst, ih hrest⟩

theorem Dictionary.forall_mem_ofPairs {κ β : Type} [BEq κ] {P : κ → Prop} {Q : β → Prop}
    {pairs : List (κ × β)} (h : ∀ pair ∈ pairs, P pair.1 ∧ Q pair.2) :
    ∀ entry ∈ Dictionary.ofPairs pairs, P entry.1 ∧ Q entry.2 := by
  rw [Dictionary.ofPairs, Dictionary.setAll]
  induction pairs using List.reverseRecOn with
  | nil => simp
  | append_singleton pairs pair ih =>
    rw [List.forall_mem_append] at h
    obtain ⟨hk, hv⟩ := h.2 pair List.mem_cons_self
    rw [List.foldl_append]
    exact forall_mem_set (ih h.1) hk hv

namespace Json

open Text

variable {text digits rest : List Char} {value : Json} {numeral : Numeral} {fields : Fields}
variable {depth budget : Nat}

/-- What is known of a value that was read, and of the fields that it may have. -/
structure AsRead (value : Json) : Prop where
  short : IsShort value
  distinct_fields : ∀ fields : Fields, value = .obj fields → fields.Distinct

theorem asRead_of_ne (hs : IsShort value) (ho : ∀ fields, value ≠ .obj fields) : AsRead value where
  short := hs
  distinct_fields fields hf := absurd hf (ho fields)

theorem asRead_obj (h : ∀ field ∈ fields, isTooLong (ofKey field.1) = false ∧ IsShort field.2)
    (hd : fields.Distinct) : AsRead (.obj fields) where
  short := isShort_obj_iff.mpr h
  distinct_fields _ he := Json.obj.inj he ▸ hd

theorem ofAsciiDigits_lt (h : ∀ c ∈ digits, isAsciiDigit c = true) :
    ofAsciiDigits digits < 10 ^ digits.length := by
  have hdigits : ∀ d ∈ digits.map fun c => c.toNat - 48, d < 10 := by
    intro d hd
    obtain ⟨c, hc, rfl⟩ := List.mem_map.mp hd
    have hd := h c hc
    simp only [isAsciiDigit, Bool.and_eq_true, decide_eq_true_eq] at hd
    have hle : c.toNat ≤ '9'.toNat := hd.2
    have hnine : '9'.toNat = 57 := rfl
    omega
  have hlt := ofDigits_lt hdigits
  rwa [List.length_map] at hlt

theorem digits_of_readWhole? (h : readWhole? text = some (digits, rest)) :
    ∀ c ∈ digits, isAsciiDigit c = true := by
  unfold readWhole? at h
  split at h
  next =>
    cases h
    simp [isAsciiDigit]
  next =>
    split at h
    next => cases h
    next =>
      cases h
      exact fun c hc => by simpa using List.all_eq_true.mp List.all_takeWhile c hc

theorem digits_of_readNumeral? (h : readNumeral? text = some (numeral, rest)) :
    ∀ c ∈ numeral.whole, isAsciiDigit c = true := by
  unfold readNumeral? at h
  obtain ⟨⟨whole, after⟩, hw, h⟩ := Option.bind_eq_some_iff.mp h
  have hdigits := digits_of_readWhole? hw
  simp only at h
  generalize readExponent? (readFraction after).2 = exponent at h
  cases exponent with
  | none =>
    cases h
    exact hdigits
  | some found =>
    cases h
    exact hdigits

theorem asRead_value (hd : ∀ c ∈ numeral.whole, isAsciiDigit c = true)
    (h : numeral.value = .ok value) : AsRead value := by
  unfold Numeral.value at h
  split at h
  next =>
    split at h
    next => cases h
    next hm =>
      have hlt := Nat.lt_of_lt_of_le (ofAsciiDigits_lt hd)
        (Nat.pow_le_pow_right (by decide) (Nat.not_lt.mp hm))
      cases h
      refine asRead_of_ne (.int (isTooLong_int_eq_false_iff.mpr ?_)) nofun
      split
      next => rwa [Int.natAbs_neg]
      next => exact hlt
  next =>
    cases h
    exact asRead_of_ne (.float _) nofun

theorem asRead_word : ∀ word ∈ words, AsRead word.2 := by
  simp only [words, List.forall_mem_cons]
  refine ⟨asRead_of_ne .null ?_, asRead_of_ne (.bool true) ?_, asRead_of_ne (.bool false) ?_,
    asRead_of_ne (.float _) ?_, asRead_of_ne (.float _) ?_, asRead_of_ne (.float _) ?_,
    List.forall_mem_nil _⟩ <;> simp

theorem asRead_readSimple (h : readSimple text = .ok (value, rest)) : AsRead value := by
  unfold readSimple at h
  split at h
  next word value' hf =>
    cases h
    exact asRead_word _ (List.mem_of_find?_eq_some hf)
  next =>
    split at h
    next numeral rest' hn =>
      cases hv : numeral.value with
      | error failure =>
        rw [hv] at h
        cases h
      | ok found =>
        rw [hv] at h
        cases h
        exact asRead_value (digits_of_readNumeral? hn) hv
    next => cases h

theorem isShort_ofKey_ofPoints (points : List Nat) : IsShort (ofKey (.ofPoints points)) := by
  unfold Key.ofPoints
  split
  · exact .torn _
  · exact .str _

theorem key_of_readString {key : Key} (h : readString text = .ok (key, rest)) :
    ∃ points, key = .ofPoints points := by
  unfold readString at h
  cases hu : readUnits ('"' :: text) [] text with
  | error failure =>
    rw [hu] at h
    cases h
  | ok found =>
    rw [hu] at h
    cases h
    exact ⟨_, rfl⟩

theorem asRead_readText (h : readText text = .ok (value, rest)) : AsRead value := by
  unfold readText at h
  cases hs : readString text with
  | error failure =>
    rw [hs] at h
    cases h
  | ok found =>
    obtain ⟨key, _⟩ := found
    obtain ⟨points, rfl⟩ := key_of_readString hs
    rw [hs] at h
    cases h
    refine asRead_of_ne (isShort_ofKey_ofPoints points) ?_
    unfold Key.ofPoints
    split <;> exact nofun

/-- A name is a text, so it is not too long a number. -/
theorem isTooLong_of_readName {key : Key} (h : readName text = .ok (key, rest)) :
    isTooLong (ofKey key) = false := by
  unfold readName at h
  split at h
  next =>
    split at h
    next => cases h
    next hs =>
      split at h
      next =>
        cases h
        obtain ⟨points, rfl⟩ := key_of_readString hs
        unfold Key.ofPoints
        split <;> rfl
      next => cases h
  next => cases h

section Parts

variable (hv : ∀ {smaller text value rest}, smaller < budget →
  readValue depth smaller text = .ok (value, rest) → AsRead value)

include hv

theorem asRead_readItems {done : List Json} (hd : ∀ item ∈ done, IsShort item)
    (h : readItems depth budget done text = .ok (value, rest)) : AsRead value := by
  induction budget generalizing done text with
  | zero => cases h
  | succ budget ih =>
    rw [readItems] at h
    split at h
    next => cases h
    next item rest he =>
      have hmore : ∀ other ∈ item :: done, IsShort other :=
        List.forall_mem_cons.mpr ⟨(hv (Nat.lt_succ_self budget) he).short, hd⟩
      split at h
      next =>
        cases h
        exact asRead_of_ne (.arr fun other ho => hmore other (List.mem_reverse.mp ho)) nofun
      next => exact ih (fun hs => hv (Nat.lt_succ_of_lt hs)) hmore h
      next => cases h

theorem asRead_readFields {done : List (Key × Json)}
    (hd : ∀ field ∈ done, isTooLong (ofKey field.1) = false ∧ IsShort field.2)
    (h : readFields depth budget done text = .ok (value, rest)) : AsRead value := by
  induction budget generalizing done text with
  | zero => cases h
  | succ budget ih =>
    rw [readFields] at h
    split at h
    next => cases h
    next name rest hn =>
      split at h
      next => cases h
      next value rest he =>
        have hmore : ∀ field ∈ (name, value) :: done,
            isTooLong (ofKey field.1) = false ∧ IsShort field.2 :=
          List.forall_mem_cons.mpr
            ⟨⟨isTooLong_of_readName hn, (hv (Nat.lt_succ_self budget) he).short⟩, hd⟩
        split at h
        next =>
          cases h
          exact asRead_obj
            (@Dictionary.forall_mem_ofPairs _ _ _ (fun key => isTooLong (ofKey key) = false) _ _
              fun field hm => hmore field (List.mem_reverse.mp hm))
            (Dictionary.distinct_ofPairs _)
        next => exact ih (fun hs => hv (Nat.lt_succ_of_lt hs)) hmore h
        next => cases h

end Parts

theorem asRead_readValue (h : readValue depth budget text = .ok (value, rest)) :
    AsRead value := by
  induction budget using Nat.strongRecOn generalizing depth text value rest with
  | ind budget ih =>
    cases budget with
    | zero => cases h
    | succ budget =>
      have hv : ∀ {depth smaller text value rest}, smaller < budget →
          readValue depth smaller text = .ok (value, rest) → AsRead value :=
        fun hs he => ih _ (Nat.lt_succ_of_lt hs) he
      unfold readValue at h
      split at h
      next => exact asRead_readText h
      next =>
        split at h
        next => cases h
        next =>
          split at h
          next =>
            cases h
            exact asRead_of_ne (.arr nofun) nofun
          next => exact asRead_readItems hv (List.forall_mem_nil _) h
      next =>
        split at h
        next => cases h
        next =>
          split at h
          next =>
            cases h
            exact asRead_obj nofun List.Pairwise.nil
          next => exact asRead_readFields hv (List.forall_mem_nil _) h
      next => exact asRead_readSimple h

theorem asRead_read {text : String} (h : Json.read text = .ok value) : AsRead value := by
  unfold Json.read at h
  split at h
  next hc =>
    cases h
    unfold readChars at hc
    split at hc
    next => cases hc
    next =>
      split at hc
      next => cases hc
      next hv =>
        split at hc
        next =>
          cases hc
          exact asRead_readValue hv
        next => cases hc
  all_goals cases h

/-- An object that was read has each of its names once. -/
theorem distinct_read {text : String} (h : Json.read text = .ok (.obj fields)) : fields.Distinct :=
  (asRead_read h).distinct_fields fields rfl

end Json

end TapeMachine
