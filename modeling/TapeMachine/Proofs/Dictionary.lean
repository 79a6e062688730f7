import TapeMachine.Dictionary

namespace TapeMachine.Dictionary

variable {κ β : Type} [BEq κ] {entries changes : Dictionary κ β} {key : κ}

/-- No two entries have the same key. -/
def Distinct (entries : Dictionary κ β) : Prop :=
  entries.Pairwise fun a b => (a.1 == b.1) = false

theorem get?_eq_none_iff :
    entries.get? key = none ↔ ∀ entry ∈ entries, (key == entry.1) = false := by
  rw [get?, List.lookup_eq_none_iff]
  exact forall₂_congr fun entry _ => by rw [bne, Bool.not_eq_true']

section Values

variable [LawfulBEq κ] {f : κ → β} {keys : List κ}

theorem distinct_map (h : keys.Nodup) : Distinct (keys.map fun k => (k, f k)) := by
  rw [Distinct, List.pairwise_map]
  exact h.imp fun hne => beq_eq_false_iff_ne.mpr hne

theorem get?_map_of_mem (h : key ∈ keys) :
    get? (keys.map fun k => (k, f k)) key = some (f key) := by
  induction keys with
  | nil => cases h
  | cons first keys ih =>
    rw [List.map_cons, get?, List.lookup_cons]
    cases hk : key == first with
    | true => rw [eq_of_beq hk]
    | false =>
      have hne : key ≠ first := by
        rintro rfl
        simp at hk
      exact ih (List.mem_of_ne_of_mem hne h)

theorem get?_map_of_notMem (h : key ∉ keys) :
    get? (keys.map fun k => (k, f k)) key = none := by
  rw [get?_eq_none_iff]
  intro entry he
  obtain ⟨other, ho, rfl⟩ := List.mem_map.mp he
  exact beq_eq_false_iff_ne.mpr fun hk => h (hk ▸ ho)

end Values

/-- One more value goes to the end of its group, or begins one of its own. -/
theorem grouped_concat (key : β → κ) (values : List β) (value : β) :
    grouped key (values ++ [value]) = (grouped key values).addTo (key value) value := by
  rw [grouped, List.foldl_append]
  rfl

/-- Entries after changes: each has the value that is given for its key, if one is. -/
def overridden (entries changes : Dictionary κ β) : Dictionary κ β :=
  entries.map fun entry => (entry.1, (changes.get? entry.1).getD entry.2)

/-- The changes for keys that are not there. -/
def additions (entries changes : Dictionary κ β) : Dictionary κ β :=
  changes.filter fun change => (entries.get? change.1).isNone

theorem overridden_append_new {value : β} (h : get? changes key = none) :
    overridden (entries ++ [(key, value)]) changes =
      overridden entries changes ++ [(key, value)] := by
  simp [overridden, h]

variable [EquivBEq κ]

/-- A new key goes to the end. -/
theorem set_of_new (h : entries.get? key = none) (value : β) :
    entries.set key value = entries ++ [(key, value)] := by
  rw [get?_eq_none_iff] at h
  induction entries with
  | nil => rfl
  | cons entry entries ih =>
    obtain ⟨hentry, hrest⟩ := List.forall_mem_cons.mp h
    rw [BEq.comm] at hentry
    rw [set, if_neg (by simp [hentry]), ih hrest, List.cons_append]

/-- A key that is there keeps its place. -/
theorem set_of_known (hd : entries.Distinct) (h : entries.get? key ≠ none) (value : β) :
    entries.set key value =
      entries.map fun entry => (entry.1, if entry.1 == key then value else entry.2) := by
  induction entries with
  | nil => exact absurd rfl h
  | cons entry entries ih =>
    obtain ⟨hentry, hrest⟩ := List.pairwise_cons.mp hd
    rw [set, List.map_cons]
    split
    next hk =>
      have hothers : ∀ other ∈ entries,
          (other.1, if other.1 == key then value else other.2) = other := by
        intro other ho
        have hne := hentry other ho
        rw [BEq.congr_left hk, BEq.comm] at hne
        rw [if_neg (by simp [hne])]
      rw [List.map_congr_left hothers, List.map_id']
    next hk =>
      have hmem : get? entries key ≠ none := by
        rw [Bool.not_eq_true, BEq.comm] at hk
        rwa [get?, List.lookup_cons, hk] at h
      rw [ih hrest hmem]

theorem Distinct.set (hd : entries.Distinct) (key : κ) (value : β) :
    (entries.set key value).Distinct := by
  by_cases h : entries.get? key = none
  · rw [set_of_new h]
    rw [get?_eq_none_iff] at h
    refine List.pairwise_append.mpr ⟨hd, List.pairwise_singleton _ _, fun entry he other ho => ?_⟩
    rw [List.mem_singleton.mp ho, BEq.comm]
    exact h entry he
  · rw [set_of_known hd h]
    exact List.pairwise_map.mpr hd

theorem Distinct.setAll (hd : entries.Distinct) (changes : Dictionary κ β) :
    (entries.setAll changes).Distinct := by
  induction changes generalizing entries with
  | nil => exact hd
  | cons change changes ih => exact ih (hd.set change.1 change.2)

theorem distinct_ofPairs (pairs : List (κ × β)) : (ofPairs pairs).Distinct :=
  Distinct.setAll List.Pairwise.nil pairs

theorem overridden_cons_of_new {value : β} (h : entries.get? key = none) :
    overridden entries ((key, value) :: changes) = overridden entries changes := by
  rw [get?_eq_none_iff] at h
  refine List.map_congr_left fun entry he => ?_
  have hne := h entry he
  rw [BEq.comm] at hne
  rw [get?, List.lookup_cons, hne]
  rfl

theorem overridden_cons {value : β} (h : get? changes key = none) :
    overridden entries ((key, value) :: changes) =
      overridden (entries.map fun entry =>
        (entry.1, if entry.1 == key then value else entry.2)) changes := by
  rw [overridden, overridden, List.map_map]
  refine List.map_congr_left fun entry _ => ?_
  simp only [Function.comp, get?, List.lookup_cons]
  cases hk : entry.1 == key with
  | true =>
    have hnone : List.lookup entry.1 changes = none := (get?_congr changes hk).trans h
    simp [hnone]
  | false => simp

/-- Changes of distinct keys override what is there and add what is not, in their order. -/
theorem setAll_eq (hd : entries.Distinct) (hc : changes.Distinct) :
    entries.setAll changes = overridden entries changes ++ additions entries changes := by
  induction changes generalizing entries with
  | nil => simp [Dictionary.setAll, overridden, additions, get?]
  | cons change changes ih =>
    obtain ⟨key, value⟩ := change
    obtain ⟨hchange, hrest⟩ := List.pairwise_cons.mp hc
    have hnone : get? changes key = none := get?_eq_none_iff.mpr hchange
    have hadds : additions (set entries key value) changes = additions entries changes := by
      refine List.filter_congr fun other ho => ?_
      have hne := hchange other ho
      rw [BEq.comm] at hne
      rw [get?_set_of_ne entries value hne]
    have hstep : setAll entries ((key, value) :: changes) =
        setAll (set entries key value) changes := rfl
    rw [hstep, ih (hd.set key value) hrest, hadds]
    by_cases h : get? entries key = none
    · rw [set_of_new h, overridden_append_new hnone, overridden_cons_of_new h, List.append_assoc]
      simp [additions, h]
    · rw [set_of_known hd h, ← overridden_cons hnone]
      simp [additions, Option.isNone_iff_eq_none, h]

end TapeMachine.Dictionary
