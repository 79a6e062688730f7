import Mathlib.Algebra.Group.Nat.Defs
import Mathlib.Data.List.Induction
import Mathlib.Data.List.Nodup
import TapeMachine.Distinct
import TapeMachine.Proofs.Json.RoundTrip
import TapeMachine.Help.Counter

namespace TapeMachine.Help.Tally

variable {names : List String} {question : String}

/-- The tally of questions, in the order in which they were asked. -/
def ofAsked (asked : List String) : Tally :=
  asked.foldl increment []

@[simp]
theorem ofAsked_nil : ofAsked [] = [] := rfl

@[simp]
theorem ofAsked_concat (asked : List String) (question : String) :
    ofAsked (asked ++ [question]) = (ofAsked asked).increment question := by
  simp [ofAsked]

theorem get?_map (count : String → Nat) (names : List String) (question : String) :
    Dictionary.get? (names.map fun name => (name, count name)) question =
      if question ∈ names then some (count question) else none := by
  induction names with
  | nil => rfl
  | cons name names ih =>
    rw [Dictionary.get?] at ih ⊢
    rw [List.map_cons, List.lookup_cons]
    by_cases h : question = name
    · simp [h]
    · simp [beq_eq_false_iff_ne.mpr h, ih, h]

theorem set_map_of_notMem (h : question ∉ names) (count : String → Nat) (n : Nat) :
    Dictionary.set (names.map fun name => (name, count name)) question n =
      names.map (fun name => (name, count name)) ++ [(question, n)] := by
  induction names with
  | nil => rfl
  | cons name names ih =>
    rw [List.mem_cons, not_or] at h
    rw [List.map_cons, Dictionary.set, if_neg (by simpa using Ne.symm h.1), ih h.2]
    rfl

theorem set_map_of_mem (h : question ∈ names) (hd : names.Nodup) (count : String → Nat) (n : Nat) :
    Dictionary.set (names.map fun name => (name, count name)) question n =
      names.map fun name => (name, if name = question then n else count name) := by
  induction names with
  | nil => simp at h
  | cons name names ih =>
    rw [List.nodup_cons] at hd
    rw [List.map_cons, Dictionary.set]
    by_cases hn : name = question
    · subst hn
      have hrest : ∀ other ∈ names, other ≠ name := fun other ho he => hd.1 (he ▸ ho)
      rw [if_pos (beq_self_eq_true name), List.map_cons, if_pos rfl]
      congr 1
      exact List.map_congr_left fun other ho => by rw [if_neg (hrest other ho)]
    · rw [if_neg (by simpa using hn), List.map_cons, if_neg hn,
        ih (List.mem_of_ne_of_mem (Ne.symm hn) h) hd.2]

/-- A tally has every question that was asked, in the order of the first times, with how often it
was. -/
theorem ofAsked_eq (asked : List String) :
    ofAsked asked = (distinct asked).map fun question => (question, asked.count question) := by
  induction asked using List.reverseRecOn with
  | nil => rfl
  | append_singleton asked question ih =>
    rw [ofAsked_concat, increment, ih, get?_map, distinct_concat]
    by_cases h : question ∈ asked
    · rw [if_pos h, if_pos (mem_distinct.mpr h), Option.getD_some,
        set_map_of_mem (mem_distinct.mpr h) (distinct_nodup asked)]
      refine List.map_congr_left fun name _ => ?_
      by_cases hn : name = question
      · simp [hn]
      · simp [hn, Ne.symm hn]
    · rw [if_neg h, if_neg (mt mem_distinct.mp h), Option.getD_none,
        set_map_of_notMem (mt mem_distinct.mp h), List.map_append]
      congr 1
      · refine List.map_congr_left fun name hm => ?_
        have hn : question ≠ name := fun he => h (he ▸ mem_distinct.mp hm)
        simp [hn]
      · simp [List.count_eq_zero_of_not_mem h]

/-- A tally as the fields of an object. -/
def fields (tally : Tally) : Json.Fields :=
  tally.map fun entry => (.text entry.1, .int entry.2)

theorem beq_text (a b : String) : (Json.Key.text a == Json.Key.text b) = (a == b) := by
  rw [Bool.eq_iff_iff, Json.Key.beq_iff, beq_iff_eq]
  simp [Json.Key.identity]

theorem get?_fields (tally : Tally) (question : String) :
    tally.fields.get? question = (tally.get? question).map fun (n : Nat) => Json.int n := by
  induction tally with
  | nil => rfl
  | cons entry tally ih =>
    obtain ⟨name, n⟩ := entry
    simp only [Dictionary.get?, fields, List.map_cons, List.lookup_cons, beq_text] at ih ⊢
    rw [ih]
    cases question == name with
    | true => rfl
    | false => rfl

theorem set_fields (tally : Tally) (question : String) (n : Nat) :
    tally.fields.set question (.int n) = fields (tally.set question n) := by
  induction tally with
  | nil => rfl
  | cons entry tally ih =>
    simp only [fields, List.map_cons, Dictionary.set, beq_text] at ih ⊢
    cases entry.1 == question with
    | true => rfl
    | false => simp [ih]

/-- To count in an object is to count in the tally. -/
theorem incremented_fields (tally : Tally) (question : String) :
    incremented (.obj tally.fields) question = .ok (tally.increment question).fields := by
  have hn : numberOf ((tally.fields.get? question).getD (.int 0)) =
      .ok (.whole (((tally.get? question).getD 0 : Nat) : Int)) := by
    rw [get?_fields]
    cases tally.get? question <;> rfl
  rw [incremented, increment, ← set_fields]
  change (numberOf _ >>= fun number => pure (tally.fields.set question (nextOf number))) = _
  rw [hn]
  rfl

theorem identity_nodup {tally : Tally} (h : (tally.map Prod.fst).Nodup) :
    (tally.fields.map fun field => field.1.identity).Nodup := by
  have hm : (tally.fields.map fun field => field.1.identity) =
      (tally.map Prod.fst).map Json.Key.Identity.text := by
    simp [fields, Json.Key.identity]
  rw [hm]
  exact List.Nodup.map (fun a b hab => Json.Key.Identity.text.inj hab) h

/-- Counts with no more digits than can be written are read back. -/
theorem legible_fields {asked : List String}
    (h : ∀ question, asked.count question < 10 ^ Text.maxDigits) :
    Json.Legible Json.maxDepth (.obj (ofAsked asked).fields) := by
  have hnames : (ofAsked asked).map Prod.fst = distinct asked := by
    rw [ofAsked_eq]
    simp [Function.comp_def]
  refine .obj ?_ (identity_nodup (hnames ▸ distinct_nodup asked)) ?_
  · intro field hf
    obtain ⟨entry, _, rfl⟩ := List.mem_map.mp hf
    exact ⟨entry.1, rfl⟩
  · intro field hf
    rw [fields, ofAsked_eq, List.map_map] at hf
    obtain ⟨question, _, rfl⟩ := List.mem_map.mp hf
    exact .int ((Nat.length_toDigits_le_iff (by decide) (by decide)).mpr (h question))

end TapeMachine.Help.Tally
