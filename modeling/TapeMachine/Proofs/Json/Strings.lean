import Mathlib.Tactic.SplitIfs
import TapeMachine.Json.Reader
import TapeMachine.Json.Writer

namespace TapeMachine.Json

open Text

variable {c : Char} {opening text rest : List Char}

/-- The units of sixteen bits of a character. -/
def unitsOf (c : Char) : List Nat :=
  if c.toNat < 0x10000 then [c.toNat] else [(halvesOf c.toNat).1, (halvesOf c.toNat).2]

theorem hexDigit?_digitChar : ∀ d < 16, hexDigit? (Nat.digitChar d) = some d := by
  decide

/-- A unit is read back from its escape if the text goes on after it. -/
theorem readUnits_unitEscape {unit : Nat} (h : unit < 0x10000) (opening : List Char)
    (done : List Nat) (hr : rest ≠ []) :
    readUnits opening done (unitEscape unit ++ rest) =
      readUnits opening (unit :: done) rest := by
  obtain ⟨d, rest, rfl⟩ := List.exists_cons_of_ne_nil hr
  have hx : hex 4 unit = [Nat.digitChar (unit / 16 / 16 / 16 % 16),
      Nat.digitChar (unit / 16 / 16 % 16), Nat.digitChar (unit / 16 % 16),
      Nat.digitChar (unit % 16)] := rfl
  have hu : unit? (Nat.digitChar (unit / 16 / 16 / 16 % 16))
      (Nat.digitChar (unit / 16 / 16 % 16)) (Nat.digitChar (unit / 16 % 16))
      (Nat.digitChar (unit % 16)) = some unit := by
    simp only [unit?, hexDigit?_digitChar _ (Nat.mod_lt _ (by decide : 0 < 16)),
      Option.bind_eq_bind, Option.bind_some, Option.pure_def, Option.some.injEq]
    omega
  rw [unitEscape, hx]
  exact readUnits.eq_3 opening done _ _ _ _ unit d rest hu

theorem readUnits_simple {unit : Nat} (h : simpleEscape? c = some unit) (opening : List Char)
    (done : List Nat) (rest : List Char) :
    readUnits opening done ('\\' :: c :: rest) = readUnits opening (unit :: done) rest := by
  have hu : c ≠ 'u' := by
    rintro rfl
    simp [simpleEscape?] at h
  rw [readUnits.eq_7 opening done c rest (fun _ _ _ _ _ he => absurd he hu) hu, h]

/-- A character that stands for itself. -/
theorem readUnits_plain (hq : c ≠ '"') (hb : c ≠ '\\') (hc : 32 ≤ c.toNat) (opening : List Char)
    (done : List Nat) (rest : List Char) :
    readUnits opening done (c :: rest) = readUnits opening (c.toNat :: done) rest := by
  rw [readUnits.eq_8 opening done c rest hq (fun _ _ _ _ _ he => absurd he hb)
    (fun _ he => absurd he hb) (fun he => absurd he hb) (fun _ _ he => absurd he hb),
    if_neg (by omega)]

theorem toNat_lt (c : Char) : c.toNat < 0x110000 := by
  rcases c.valid with h | h
  · change c.toNat < 0xd800 at h
    omega
  · exact h.2

theorem isHalf_toNat (c : Char) : isHalf c.toNat = false := by
  have hv := c.valid
  change c.toNat < 0xd800 ∨ 0xdfff < c.toNat ∧ c.toNat < 0x110000 at hv
  simp only [isHalf, isHighHalf, isLowHalf, Bool.or_eq_false_iff, Bool.and_eq_false_iff,
    decide_eq_false_iff_not]
  omega

theorem simpleEscape?_bounds {unit : Nat} (h : simpleEscape? c = some unit) :
    (32 ≤ c.toNat ∧ c.toNat ≤ 126) ∧ unit < 0x10000 := by
  unfold simpleEscape? at h
  split at h
  all_goals cases h
  all_goals decide

/-- How a character is written: by a letter behind a backslash, as it is, or as its units. -/
inductive Escaped (c : Char) : List Char → Prop
  | letter {letter : Char} (h : simpleEscape? letter = some c.toNat) : Escaped c ['\\', letter]
  | plain (hq : c ≠ '"') (hb : c ≠ '\\') (h : 32 ≤ c.toNat ∧ c.toNat ≤ 126) : Escaped c [c]
  | unit (h : c.toNat < 0x10000) : Escaped c (unitEscape c.toNat)
  | pair (h : 0x10000 ≤ c.toNat) :
      Escaped c (unitEscape (halvesOf c.toNat).1 ++ unitEscape (halvesOf c.toNat).2)

theorem escaped_escape (c : Char) : Escaped c (escape c) := by
  unfold escape
  split_ifs with hspecial hfeed hreturn htab hback hform hvisible hunit
  · rcases hspecial with rfl | rfl
    · exact .letter rfl
    · exact .letter rfl
  · subst hfeed
    exact .letter rfl
  · subst hreturn
    exact .letter rfl
  · subst htab
    exact .letter rfl
  · subst hback
    exact .letter rfl
  · subst hform
    exact .letter rfl
  · exact .plain (fun he => hspecial (.inl he)) (fun he => hspecial (.inr he)) hvisible
  · exact .unit hunit
  · exact .pair (Nat.le_of_not_lt hunit)

/-- The units of a character are read back from its escape. -/
theorem readUnits_escape (c : Char) (opening : List Char) (done : List Nat) (hr : rest ≠ []) :
    readUnits opening done (escape c ++ rest) =
      readUnits opening ((unitsOf c).reverse ++ done) rest := by
  have hsmall : c.toNat < 0x10000 → (unitsOf c).reverse ++ done = c.toNat :: done := by
    intro h
    simp [unitsOf, h]
  have hwritten := escaped_escape c
  generalize escape c = written at hwritten ⊢
  cases hwritten with
  | letter h =>
    rw [hsmall (simpleEscape?_bounds h).2]
    exact readUnits_simple h opening done rest
  | plain hq hb h =>
    rw [hsmall (by omega)]
    exact readUnits_plain hq hb h.1 opening done rest
  | unit h =>
    rw [hsmall h]
    exact readUnits_unitEscape h opening done hr
  | pair h =>
    have hc := toNat_lt c
    have hhigh : (halvesOf c.toNat).1 < 0x10000 := by simp only [halvesOf]; omega
    have hlow : (halvesOf c.toNat).2 < 0x10000 := by simp only [halvesOf]; omega
    rw [List.append_assoc, readUnits_unitEscape hhigh opening done (by simp [unitEscape]),
      readUnits_unitEscape hlow opening _ hr]
    simp [unitsOf, Nat.not_lt.mpr h]

theorem readUnits_text (text : List Char) (opening : List Char) (done : List Nat)
    (rest : List Char) :
    readUnits opening done (text.flatMap escape ++ '"' :: rest) =
      .ok (done.reverse ++ text.flatMap unitsOf, rest) := by
  induction text generalizing done with
  | nil => simp [readUnits]
  | cons c text ih =>
    rw [List.flatMap_cons, List.append_assoc, readUnits_escape c opening done (by simp), ih]
    simp

/-- A unit that is no first half stands for itself. -/
theorem joinHalves_cons {unit : Nat} (h : isHighHalf unit = false) (units : List Nat) :
    joinHalves (unit :: units) = unit :: joinHalves units := by
  cases units with
  | nil => rfl
  | cons low units => rw [joinHalves, h]; rfl

theorem joinHalves_pair {c : Char} (h : 0x10000 ≤ c.toNat) (units : List Nat) :
    joinHalves ((halvesOf c.toNat).1 :: (halvesOf c.toNat).2 :: units) =
      c.toNat :: joinHalves units := by
  have hc := toNat_lt c
  have hhigh : isHighHalf (halvesOf c.toNat).1 = true := by
    refine Bool.and_eq_true_iff.mpr ⟨decide_eq_true ?_, decide_eq_true ?_⟩ <;>
      simp only [halvesOf] <;> omega
  have hlow : isLowHalf (halvesOf c.toNat).2 = true := by
    refine Bool.and_eq_true_iff.mpr ⟨decide_eq_true ?_, decide_eq_true ?_⟩ <;>
      simp only [halvesOf] <;> omega
  rw [joinHalves, hhigh, hlow]
  simp only [Bool.and_self, ↓reduceIte, halvesOf, List.cons.injEq, and_true]
  omega

/-- The code points of a text are found again in its units. -/
theorem joinHalves_unitsOf (text : List Char) :
    joinHalves (text.flatMap unitsOf) = text.map Char.toNat := by
  induction text with
  | nil => rfl
  | cons c text ih =>
    rw [List.flatMap_cons, List.map_cons, ← ih, unitsOf]
    split
    next =>
      have hh : isHighHalf c.toNat = false := (Bool.or_eq_false_iff.mp (isHalf_toNat c)).1
      exact joinHalves_cons hh _
    next h => exact joinHalves_pair (by omega) _

theorem ofPoints_toNat (text : List Char) :
    Key.ofPoints (text.map Char.toNat) = .text (String.ofList text) := by
  have hh : (text.map Char.toNat).any isHalf = false := by
    simp [isHalf_toNat]
  have hc : charsOf (text.map Char.toNat) = text := by
    rw [charsOf, List.map_map]
    refine (List.map_congr_left fun c _ => ?_).trans (List.map_id text)
    simp [isHalf_toNat]
  rw [Key.ofPoints, hh, hc]
  rfl

/-- A string is read back from its written form. -/
theorem readString_text (text rest : List Char) :
    readString (text.flatMap escape ++ '"' :: rest) = .ok (.text (String.ofList text), rest) := by
  rw [readString, readUnits_text]
  simp only [List.reverse_nil, List.nil_append, Except.map, joinHalves_unitsOf, ofPoints_toNat]

end TapeMachine.Json
