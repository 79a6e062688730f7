import Mathlib.Data.List.Perm.Basic
import Mathlib.Data.Prod.Lex
import Mathlib.Data.String.Basic
import TapeMachine.Proofs.Help.Counting

namespace TapeMachine.Help

variable {a b : String × Nat} {entries others : Tally}

/-- The larger count ranks above, of equal ones the smaller name. -/
def RanksAbove (a b : String × Nat) : Prop :=
  b.2 < a.2 ∨ a.2 = b.2 ∧ a.1 < b.1

/-- Where an entry stands, the foremost being the least. -/
def standing (entry : String × Nat) : ℕᵒᵈ ×ₗ String :=
  toLex (OrderDual.toDual entry.2, entry.1)

theorem standing_injective : Function.Injective standing := by
  intro a b h
  have hp := toLex.injective h
  exact Prod.ext (Prod.mk.inj hp).2 (OrderDual.toDual.injective (Prod.mk.inj hp).1)

theorem standing_lt_iff : standing a < standing b ↔ RanksAbove a b :=
  Prod.Lex.toLex_lt_toLex

theorem standing_le_iff :
    standing a ≤ standing b ↔ ranksBefore (fun m n => decide (n < m)) a b = true := by
  have hle : standing a ≤ standing b ↔ b.2 < a.2 ∨ a.2 = b.2 ∧ a.1 ≤ b.1 :=
    Prod.Lex.toLex_le_toLex
  rw [hle]
  simp only [ranksBefore, Bool.or_eq_true, Bool.and_eq_true, Bool.not_eq_true', decide_eq_true_eq,
    decide_eq_false_iff_not]
  constructor
  · rintro (h | ⟨he, hn⟩)
    · exact .inl h
    · exact .inr ⟨by omega, hn⟩
  · rintro (h | ⟨he, hn⟩)
    · exact .inl h
    · by_cases hlt : b.2 < a.2
      · exact .inl hlt
      · exact .inr ⟨by omega, hn⟩

namespace Tally

variable {asked other : List String} {question : String} {entry : String × Nat}

/-- All entries, the foremost first. -/
def ranked (tally : Tally) : List (String × Nat) :=
  ranking (fun m n => decide (n < m)) tally

theorem mostFrequent_eq_take (tally : Tally) (limit : Nat) :
    tally.mostFrequent limit = tally.ranked.take limit := by
  have hn : ¬(limit : Int) < 0 := by omega
  rw [mostFrequent, first, if_neg hn, Int.toNat_natCast, ranked]

theorem ranked_perm (tally : Tally) : tally.ranked.Perm tally :=
  List.mergeSort_perm tally _

theorem pairwise_ranked (tally : Tally) :
    tally.ranked.Pairwise fun a b => standing a ≤ standing b := by
  have htrans : ∀ a b c : String × Nat, ranksBefore (fun m n => decide (n < m)) a b = true →
      ranksBefore (fun m n => decide (n < m)) b c = true →
      ranksBefore (fun m n => decide (n < m)) a c = true := by
    intro a b c hab hbc
    rw [← standing_le_iff] at hab hbc ⊢
    exact hab.trans hbc
  have htotal : ∀ a b : String × Nat, (ranksBefore (fun m n => decide (n < m)) a b ||
      ranksBefore (fun m n => decide (n < m)) b a) = true := by
    intro a b
    rw [Bool.or_eq_true, ← standing_le_iff, ← standing_le_iff]
    exact le_total (standing a) (standing b)
  exact (List.pairwise_mergeSort htrans htotal tally).imp standing_le_iff.mpr

/-- No two entries stand in the same place, so the order in which they came does not show. -/
theorem ranked_eq_of_perm (h : entries.Perm others) : ranked entries = ranked others := by
  have hperm : (ranked entries).Perm (ranked others) :=
    (ranked_perm entries).trans (h.trans (ranked_perm others).symm)
  refine hperm.eq_of_pairwise (fun a b _ _ hab hba => ?_) (pairwise_ranked entries)
    (pairwise_ranked others)
  exact standing_injective (le_antisymm hab hba)

theorem ranked_strictly (h : entries.Nodup) : (ranked entries).Pairwise RanksAbove := by
  have hn : (ranked entries).Nodup := (ranked_perm entries).nodup_iff.mpr h
  refine ((pairwise_ranked entries).and hn).imp fun {a b} ⟨hle, hne⟩ => ?_
  exact standing_lt_iff.mp (lt_of_le_of_ne hle fun he => hne (standing_injective he))

theorem mem_ofAsked_iff :
    entry ∈ ofAsked asked ↔ entry.1 ∈ asked ∧ entry.2 = asked.count entry.1 := by
  rw [ofAsked_eq, List.mem_map]
  constructor
  · rintro ⟨question, hq, rfl⟩
    exact ⟨mem_distinct.mp hq, rfl⟩
  · rintro ⟨hq, hc⟩
    exact ⟨entry.1, mem_distinct.mpr hq, Prod.ext rfl hc.symm⟩

theorem ofAsked_nodup (asked : List String) : (ofAsked asked).Nodup := by
  rw [ofAsked_eq]
  exact (distinct_nodup asked).map fun a b h => congrArg Prod.fst h

/-- In another order the same questions make the same entries, if in another order. -/
theorem ofAsked_perm (h : asked.Perm other) : (ofAsked asked).Perm (ofAsked other) := by
  rw [List.perm_ext_iff_of_nodup (ofAsked_nodup asked) (ofAsked_nodup other)]
  intro entry
  rw [mem_ofAsked_iff, mem_ofAsked_iff, h.mem_iff, h.count_eq]

/-- Of the questions asked those that rank foremost, `limit` of them if there are so many, each with
how often it was asked. -/
structure Top (asked : List String) (limit : Nat) (top : List (String × Nat)) : Prop where
  length_eq : top.length = min limit (distinct asked).length
  counted : ∀ entry ∈ top, entry.1 ∈ asked ∧ entry.2 = asked.count entry.1
  ordered : top.Pairwise RanksAbove
  others_below : ∀ question ∈ asked, question ∉ top.map Prod.fst →
    ∀ entry ∈ top, RanksAbove entry (question, asked.count question)

theorem top_mostFrequent (asked : List String) (limit : Nat) :
    Top asked limit ((ofAsked asked).mostFrequent limit) := by
  rw [mostFrequent_eq_take]
  have hperm := ranked_perm (ofAsked asked)
  have hsplit := List.take_append_drop limit (ofAsked asked).ranked
  have hstrict := ranked_strictly (ofAsked_nodup asked)
  rw [← hsplit] at hstrict
  obtain ⟨hordered, -, hbelow⟩ := List.pairwise_append.mp hstrict
  refine ⟨?_, fun entry he => ?_, hordered, fun question hq hout entry he => ?_⟩
  · have hlength : (ofAsked asked).length = (distinct asked).length := by
      rw [ofAsked_eq, List.length_map]
    rw [List.length_take, hperm.length_eq, hlength]
  · exact mem_ofAsked_iff.mp (hperm.mem_iff.mp (List.mem_of_mem_take he))
  · refine hbelow entry he (question, asked.count question) ?_
    have hm : (question, asked.count question) ∈ (ofAsked asked).ranked :=
      hperm.mem_iff.mpr (mem_ofAsked_iff.mpr ⟨hq, rfl⟩)
    rw [← hsplit] at hm
    exact (List.mem_append.mp hm).resolve_left fun ht => hout (List.mem_map_of_mem ht)

/-- The questions asked most often are the same in whatever order they were asked. -/
theorem mostFrequent_of_perm (h : asked.Perm other) (limit : Nat) :
    Top asked limit ((ofAsked asked).mostFrequent limit) ∧
      (ofAsked other).mostFrequent limit = (ofAsked asked).mostFrequent limit := by
  refine ⟨top_mostFrequent asked limit, ?_⟩
  rw [mostFrequent_eq_take, mostFrequent_eq_take, ranked_eq_of_perm (ofAsked_perm h)]

/-- Two questions were asked equally often, and there is a place for one of them only. -/
theorem mostFrequent_of_perm_tie :
    let asked := ["b", "c", "a", "c"]
    let other := ["c", "a", "b", "c"]
    asked.Perm other ∧ ofAsked other ≠ ofAsked asked ∧
      Top asked 2 [("c", 2), ("a", 1)] ∧ (ofAsked other).mostFrequent 2 = [("c", 2), ("a", 1)] := by
  intro asked other
  have hperm : asked.Perm other := by decide
  have hne : ofAsked other ≠ ofAsked asked := by decide
  have hranked : ranked (ofAsked asked) = [("c", 2), ("a", 1), ("b", 1)] :=
    (ranked_eq_of_perm (by decide)).trans (List.mergeSort_of_pairwise (by decide))
  have htop : (ofAsked asked).mostFrequent (2 : Nat) = [("c", 2), ("a", 1)] := by
    rw [mostFrequent_eq_take, hranked]
    rfl
  obtain ⟨hasked, hother⟩ := mostFrequent_of_perm hperm 2
  exact ⟨hperm, hne, htop ▸ hasked, hother.trans htop⟩

end Tally

end TapeMachine.Help
