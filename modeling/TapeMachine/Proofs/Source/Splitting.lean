import Mathlib.Data.List.Range
import Mathlib.Data.List.Sort
import TapeMachine.Proofs.Source.Extraction

namespace TapeMachine.Source

variable {target separator : Char} {opened : Option Char} {text left right : List Char}
variable {parts : List (List Char)} {i start budget : Nat}

/-- At this place of a text stands the character, outside quotes when all that comes before it is
scanned from the start. -/
def Bare (target : Char) (opened : Option Char) (text : List Char) (i : Nat) : Prop :=
  text[i]? = some target ∧ openAfter opened (text.take i) = none

instance (i : Nat) : Decidable (Bare target opened text i) := by
  unfold Bare
  infer_instance

theorem bare_cons_zero {c : Char} :
    Bare target opened (c :: text) 0 ↔ c = target ∧ opened = none := by
  simp [Bare]

theorem bare_cons_succ {c : Char} :
    Bare target opened (c :: text) (i + 1) ↔ Bare target (afterChar opened c) text i := by
  simp [Bare]

theorem bare_append_length :
    Bare target opened (left ++ right) (left.length + i) ↔
      Bare target (openAfter opened left) right i := by
  induction left generalizing opened with
  | nil => simp
  | cons c left ih =>
    have hi : (c :: left).length + i = left.length + i + 1 := by
      simp only [List.length_cons]
      omega
    rw [hi, List.cons_append, bare_cons_succ, ih, openAfter_cons]

theorem bare_append_of_lt (h : i < left.length) :
    Bare target opened (left ++ right) i ↔ Bare target opened left i := by
  have ht : (left ++ right).take i = left.take i := List.take_append_of_le_length h.le
  rw [Bare, Bare, List.getElem?_append_left h, ht]

theorem Bare.lt_length (h : Bare target opened text i) : i < text.length :=
  (List.getElem?_eq_some_iff.mp h.1).1

/-- A search comes to nothing only where there is nothing to be found. -/
theorem find?_eq_none_iff (hq : isQuote target = false) :
    find? target opened text = none ↔ ∀ i, ¬Bare target opened text i := by
  induction text generalizing opened with
  | nil => simp [find?, Bare]
  | cons c text ih =>
    by_cases hc : opened = none ∧ isQuote c = false ∧ c = target
    · rw [find?, if_pos hc]
      refine iff_of_false (by simp) fun h => ?_
      exact h 0 (bare_cons_zero.mpr ⟨hc.2.2, hc.1⟩)
    · rw [find?, if_neg hc, Option.map_eq_none_iff, ih]
      constructor
      · intro h i hb
        cases i with
        | zero =>
          obtain ⟨rfl, ho⟩ := bare_cons_zero.mp hb
          exact hc ⟨ho, hq, rfl⟩
        | succ i => exact h i (bare_cons_succ.mp hb)
      · intro h i hb
        exact h (i + 1) (bare_cons_succ.mpr hb)

/-- Behind a first part with closed quotes the scan of the whole text is that of the rest. -/
theorem bare_append_cons_iff (hq : isQuote separator = false)
    (hf : find? separator none left = none) (hc : openAfter none left = none) :
    Bare separator none (left ++ separator :: right) i ↔
      i = left.length ∨ ∃ j, i = left.length + 1 + j ∧ Bare separator none right j := by
  constructor
  · intro h
    obtain hlt | hge := Nat.lt_or_ge i left.length
    · exact absurd ((bare_append_of_lt hlt).mp h) ((find?_eq_none_iff hq).mp hf i)
    · obtain ⟨j, rfl⟩ := Nat.exists_eq_add_of_le hge
      rw [bare_append_length, hc] at h
      cases j with
      | zero => exact .inl rfl
      | succ j =>
        rw [bare_cons_succ, afterChar_of_not_quote hq] at h
        exact .inr ⟨j, by omega, h⟩
  · rintro (rfl | ⟨j, rfl, h⟩)
    · have hb : Bare separator none (separator :: right) 0 := bare_cons_zero.mpr ⟨rfl, rfl⟩
      rw [← hc] at hb
      exact bare_append_length.mpr hb
    · have hb : Bare separator none (separator :: right) (j + 1) := by
        rwa [bare_cons_succ, afterChar_of_not_quote hq]
      rw [← hc] at hb
      rw [Nat.add_assoc, Nat.add_comm 1 j]
      exact bare_append_length.mpr hb

/-- Nothing is lost at the cuts. -/
theorem intercalate_split (separator : Char) (text : List Char) :
    [separator].intercalate (split separator text) = text := by
  fun_induction split separator text with
  | case1 text hf => exact List.intercalate_singleton
  | case2 text i hi ih =>
    obtain ⟨he, -⟩ := find?_eq_some hi
    have hne : split separator (text.drop (i + 1)) ≠ [] := split_ne_nil separator _
    obtain ⟨part, rest, hs⟩ := List.exists_cons_of_ne_nil hne
    rw [hs] at ih ⊢
    rw [List.intercalate_cons_cons, ih, List.append_assoc, List.singleton_append]
    exact he.symm

theorem closed_of_mem_dropLast {part : List Char} (h : part ∈ (split separator text).dropLast) :
    openAfter none part = none := by
  fun_induction split separator text with
  | case1 text hf => simp at h
  | case2 text i hi ih =>
    obtain ⟨-, -, ho, -⟩ := find?_eq_some hi
    rw [List.dropLast_cons_of_ne_nil (split_ne_nil separator _)] at h
    rcases List.mem_cons.mp h with rfl | hm
    · exact ho
    · exact ih hm

/-- Parts without a separator outside quotes, and with closed quotes but for the last, come apart
again where they were joined. -/
theorem split_intercalate (hq : isQuote separator = false) (hne : parts ≠ [])
    (hf : ∀ part ∈ parts, find? separator none part = none)
    (hc : ∀ part ∈ parts.dropLast, openAfter none part = none) :
    split separator ([separator].intercalate parts) = parts := by
  induction parts with
  | nil => exact absurd rfl hne
  | cons part parts ih =>
    have hpart := hf part List.mem_cons_self
    cases parts with
    | nil => rw [List.intercalate_singleton, split_of_none hpart]
    | cons next rest =>
      have hrest := ih (List.cons_ne_nil next rest)
        (fun other ho => hf other (List.mem_cons_of_mem part ho))
        (fun other ho => hc other (List.mem_cons_of_mem part ho))
      have hclosed := hc part List.mem_cons_self
      rw [List.intercalate_cons_cons, List.append_assoc, List.singleton_append,
        split_append_cons hq hpart hclosed, hrest]

/-- Where the separators between parts stand, the first part beginning at place `start`. -/
def cuts (start : Nat) : List (List Char) → List Nat
  | [] => []
  | [_] => []
  | part :: next :: rest =>
    (start + part.length) :: cuts (start + part.length + 1) (next :: rest)

theorem cuts_cons (hne : parts ≠ []) (part : List Char) :
    cuts start (part :: parts) = (start + part.length) :: cuts (start + part.length + 1) parts := by
  obtain ⟨next, rest, rfl⟩ := List.exists_cons_of_ne_nil hne
  rfl

theorem le_of_mem_cuts (h : i ∈ cuts start parts) : start ≤ i := by
  induction parts generalizing start with
  | nil => simp [cuts] at h
  | cons part parts ih =>
    cases parts with
    | nil => simp [cuts] at h
    | cons next rest =>
      rcases List.mem_cons.mp h with rfl | hm
      · omega
      · have := ih hm
        omega

theorem cuts_increasing (start : Nat) (parts : List (List Char)) :
    (cuts start parts).Pairwise (· < ·) := by
  induction parts generalizing start with
  | nil => exact List.Pairwise.nil
  | cons part parts ih =>
    cases parts with
    | nil => exact List.Pairwise.nil
    | cons next rest =>
      refine List.pairwise_cons.mpr ⟨fun i hi => ?_, ih (start + part.length + 1)⟩
      have := le_of_mem_cuts hi
      omega

/-- Though each part is scanned afresh, the cuts are at the separators that a scan of the whole text
finds outside quotes: at every cut all quotes before it are closed. -/
theorem mem_cuts_split_iff (hq : isQuote separator = false) (start : Nat) (text : List Char) :
    i ∈ cuts start (split separator text) ↔ ∃ j, i = start + j ∧ Bare separator none text j := by
  fun_induction split separator text generalizing start with
  | case1 text hf =>
    refine iff_of_false (by simp [cuts]) ?_
    rintro ⟨j, -, hb⟩
    exact (find?_eq_none_iff hq).mp hf j hb
  | case2 text k hk ih =>
    obtain ⟨he, hf, ho, -⟩ := find?_eq_some hk
    -- No quote is open behind the first cut, so the rest may be scanned as a text of its own.
    rw [cuts_cons (split_ne_nil separator _), List.mem_cons, ih]
    conv_rhs => rw [he]
    simp only [bare_append_cons_iff hq hf ho]
    constructor
    · rintro (rfl | ⟨j, rfl, hb⟩)
      · exact ⟨_, rfl, .inl rfl⟩
      · exact ⟨_, by omega, .inr ⟨j, rfl, hb⟩⟩
    · rintro ⟨-, rfl, rfl | ⟨j, rfl, hb⟩⟩
      · exact .inl rfl
      · exact .inr ⟨j, by omega, hb⟩

theorem cuts_split (hq : isQuote separator = false) (text : List Char) :
    cuts 0 (split separator text) =
      (List.range text.length).filter fun i => Bare separator none text i := by
  refine (cuts_increasing 0 _).eq_of_mem_iff (List.pairwise_lt_range.filter _) fun i => ?_
  rw [mem_cuts_split_iff hq, List.mem_filter, List.mem_range, decide_eq_true_eq]
  constructor
  · rintro ⟨j, rfl, hb⟩
    rw [Nat.zero_add]
    exact ⟨hb.lt_length, hb⟩
  · rintro ⟨-, hb⟩
    exact ⟨i, (Nat.zero_add i).symm, hb⟩

/-- The parts of a text from a place on. Each search goes on in the text behind the separator found
last, with no quote open, and there are no more of them than the budget allows. -/
def splitFrom? (separator : Char) (text : List Char) :
    (budget start : Nat) → Option (List (List Char))
  | 0, _ => none
  | budget + 1, start =>
    match findFrom? [separator] text start with
    | some (some place) =>
      (splitFrom? separator text budget (place.toNat + 1)).map
        ((text.take place.toNat).drop start :: ·)
    | _ => some [text.drop start]

theorem findFrom?_natCast (target : Char) (text : List Char) (start : Nat) :
    findFrom? [target] text start =
      some ((find? target none (text.drop start)).map fun i => ((start + i : Nat) : Int)) := by
  have hs : charsFrom? text start = some (text.drop start) := by simp [charsFrom?]
  rw [findFrom?, hs, Option.map_some]
  cases hf : find? target none (text.drop start) with
  | none => simp [hf]
  | some i => simp [hf]

/-- Every search ends behind the place where it begins, so there are not more of them than
characters and one. -/
theorem splitFrom?_eq (hs : start ≤ text.length) (hb : text.length < budget + start) :
    splitFrom? separator text budget start = some (split separator (text.drop start)) := by
  induction budget generalizing start with
  | zero => omega
  | succ budget ih =>
    rw [splitFrom?, findFrom?_natCast, split]
    cases hf : find? separator none (text.drop start) with
    | none => simp
    | some i =>
      have hi : i < text.length - start := by
        have := find?_lt hf
        rwa [List.length_drop] at this
      have hrest := @ih (start + i + 1) (by omega) (by omega)
      have hpart : (text.take (start + i)).drop start = (text.drop start).take i := by
        rw [List.drop_take, Nat.add_sub_cancel_left]
      simp only [Option.map_some, Int.toNat_natCast, hrest, hpart]
      rw [List.drop_drop, Nat.add_assoc]

/-- The parts of a text as one scan from its start cuts them off. -/
structure OnePass (separator : Char) (text : List Char) (parts : List (List Char)) : Prop where
  nonempty : parts ≠ []
  joined : [separator].intercalate parts = text
  cuts_eq : cuts 0 parts = (List.range text.length).filter fun i => Bare separator none text i
  closed : ∀ part ∈ parts.dropLast, openAfter none part = none
  uncut : ∀ part ∈ parts, ∀ i, ¬Bare separator none part i

theorem onePass_split (hq : isQuote separator = false) (text : List Char) :
    OnePass separator text (split separator text) where
  nonempty := split_ne_nil separator text
  joined := intercalate_split separator text
  cuts_eq := cuts_split hq text
  closed := fun _ hp => closed_of_mem_dropLast hp
  uncut := fun part hp => by
    obtain ⟨-, -, -, -, hf⟩ := mem_split hp
    exact (find?_eq_none_iff hq).mp hf

theorem OnePass.eq_split (hq : isQuote separator = false) (h : OnePass separator text parts) :
    parts = split separator text := by
  have hf : ∀ part ∈ parts, find? separator none part = none := fun part hp =>
    (find?_eq_none_iff hq).mpr (h.uncut part hp)
  rw [← h.joined, split_intercalate hq h.nonempty hf h.closed]

/-- The searches that begin afresh behind every cut come to an end, and their parts are those of a
single scan, which are the only ones. -/
theorem split_in_one_pass (hq : isQuote separator = false) (text : List Char) :
    (∀ budget, text.length < budget →
      splitFrom? separator text budget 0 = some (split separator text)) ∧
      ∀ parts, OnePass separator text parts ↔ parts = split separator text := by
  refine ⟨fun budget hb => ?_, fun parts => ⟨fun h => h.eq_split hq, ?_⟩⟩
  · exact splitFrom?_eq (Nat.zero_le _) hb
  · rintro rfl
    exact onePass_split hq text

/-- A quote of one kind stands inside quotes of the other, and the last quote does not close. -/
theorem split_in_one_pass_mixed :
    let text := ['x', ',', '\'', ',', '"', '\'', ',', 'b', ',', '"', ',']
    let parts := [['x'], ['\'', ',', '"', '\''], ['b'], ['"', ',']]
    isQuote ',' = false ∧ splitFrom? ',' text 12 0 = some parts ∧ OnePass ',' text parts ∧
      cuts 0 parts = [1, 6, 8] := by
  intro text parts
  have hq : isQuote ',' = false := by decide
  have hs : parts = split ',' text := by cbv
  obtain ⟨hends, honly⟩ := split_in_one_pass hq text
  have hloop := hends 12 (by decide)
  rw [← hs] at hloop
  exact ⟨hq, hloop, (honly parts).mpr hs, by decide⟩

end TapeMachine.Source
