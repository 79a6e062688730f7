namespace TapeMachine

/-- Values under keys, each key once, in the order in which the keys came. -/
abbrev Dictionary (κ β : Type) := List (κ × β)

namespace Dictionary

variable {κ β : Type} [BEq κ]

def get? (entries : Dictionary κ β) (key : κ) : Option β :=
  entries.lookup key

/-- A key that is there keeps its place and its spelling, a new one goes to the end. -/
def set : Dictionary κ β → κ → β → Dictionary κ β
  | [], key, value => [(key, value)]
  | (name, old) :: rest, key, value =>
    if name == key then (name, value) :: rest else (name, old) :: set rest key value

def setAll (entries changes : Dictionary κ β) : Dictionary κ β :=
  changes.foldl (fun entries change => entries.set change.1 change.2) entries

/-- What a list of pairs amounts to: the last value of a key at its first place. -/
def ofPairs (pairs : List (κ × β)) : Dictionary κ β :=
  setAll [] pairs

/-- One more value at the end of the group under a key. -/
def addTo (groups : Dictionary κ (List β)) (key : κ) (value : β) : Dictionary κ (List β) :=
  groups.set key ((groups.get? key).getD [] ++ [value])

/-- Values gathered by their keys in one pass. -/
def grouped (key : β → κ) (values : List β) : Dictionary κ (List β) :=
  values.foldl (fun groups value => groups.addTo (key value) value) []

variable [EquivBEq κ]

theorem get?_set_self (entries : Dictionary κ β) (key : κ) (value : β) :
    (entries.set key value).get? key = some value := by
  induction entries with
  | nil => simp [set, get?]
  | cons entry rest ih =>
    obtain ⟨name, old⟩ := entry
    unfold set
    split
    next h => simp [get?, List.lookup_cons, BEq.symm h]
    next h =>
      have h : (key == name) = false := by
        rw [BEq.comm]
        simpa using h
      rw [get?, List.lookup_cons, h]
      exact ih

theorem get?_set_of_ne (entries : Dictionary κ β) {key other : κ} (value : β)
    (h : (other == key) = false) : (entries.set key value).get? other = entries.get? other := by
  induction entries with
  | nil => simp [set, get?, List.lookup_cons, h]
  | cons entry rest ih =>
    obtain ⟨name, old⟩ := entry
    unfold set
    split
    next same =>
      have h : (other == name) = false := by rw [BEq.congr_right same, h]
      simp [get?, List.lookup_cons, h]
    next =>
      simp only [get?, List.lookup_cons] at ih ⊢
      rw [ih]

theorem get?_congr (entries : Dictionary κ β) {key other : κ} (h : other == key) :
    entries.get? other = entries.get? key := by
  induction entries with
  | nil => rfl
  | cons entry rest ih =>
    obtain ⟨name, old⟩ := entry
    simp only [get?, List.lookup_cons, BEq.congr_left h] at ih ⊢
    rw [ih]

/-- No key is lost, whatever is stored. -/
theorem isSome_get?_set {entries : Dictionary κ β} {key other : κ} (value : β)
    (h : (entries.get? other).isSome ∨ other == key) :
    ((entries.set key value).get? other).isSome := by
  cases hk : other == key with
  | true => simp [get?_congr _ hk, get?_set_self]
  | false => simpa [get?_set_of_ne entries value hk, hk] using h

theorem isSome_get?_setAll {entries changes : Dictionary κ β} {key : κ}
    (h : (entries.get? key).isSome ∨ ∃ change ∈ changes, key == change.1) :
    ((entries.setAll changes).get? key).isSome := by
  induction changes generalizing entries with
  | nil => simpa [setAll] using h
  | cons change changes ih =>
    rw [setAll, List.foldl_cons]
    refine ih ?_
    obtain h | ⟨other, hm, hk⟩ := h
    · exact .inl (isSome_get?_set change.2 (.inl h))
    · obtain rfl | hm := List.mem_cons.mp hm
      · exact .inl (isSome_get?_set other.2 (.inr hk))
      · exact .inr ⟨other, hm, hk⟩

end Dictionary

end TapeMachine
