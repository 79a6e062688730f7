import TapeMachine.Proofs.Files.Edits
import TapeMachine.Proofs.Files.Homes

namespace TapeMachine.Files

variable {directory name other : String} {tree : Tree} {place : Place}

theorem parts_of_notMem (h : '/' ∉ name.toList) : parts name = [name] := by
  rw [parts_eq, List.splitOn_eq_singleton h, List.map_singleton, String.ofList_toList]

theorem isAbsolute_of_notMem (h : '/' ∉ name.toList) : isAbsolute name = false := by
  rw [isAbsolute]
  cases hn : name.toList with
  | nil => rfl
  | cons c rest =>
    rw [hn, List.mem_cons, not_or] at h
    simpa using Ne.symm h.1

/-- A name below a directory is the last part of its path, and the parts before it are up to the
directory. -/
theorem parts_below (directory : String) :
    ∃ front, ∀ name, '/' ∉ name.toList → parts (below directory name) = front ++ [name] := by
  have hslash : ∀ (before : List Char) (name : String), '/' ∉ name.toList →
      parts (String.ofList (before ++ '/' :: name.toList)) =
        parts (String.ofList before) ++ [name] := by
    intro before name hn
    rw [parts_append_slash, String.ofList_toList, parts_of_notMem hn]
  by_cases hd : directory = ""
  · refine ⟨[], fun name hn => ?_⟩
    rw [below, isAbsolute_of_notMem hn, if_neg (by simp), if_pos (.inl hd), hd, String.empty_append,
      parts_of_notMem hn, List.nil_append]
  · by_cases hl : directory.toList.getLast? = some '/'
    · obtain ⟨before, hbefore⟩ := List.getLast?_eq_some_iff.mp hl
      refine ⟨parts (String.ofList before), fun name hn => ?_⟩
      have hpath : directory ++ name = String.ofList (before ++ '/' :: name.toList) := by
        rw [← String.toList_inj, String.toList_append, hbefore, String.toList_ofList]
        simp
      rw [below, isAbsolute_of_notMem hn, if_neg (by simp), if_pos (.inr hl), hpath, hslash _ _ hn]
    · refine ⟨parts directory, fun name hn => ?_⟩
      have hpath : directory ++ "/" ++ name =
          String.ofList (directory.toList ++ '/' :: name.toList) := by
        rw [← String.toList_inj, String.toList_append, String.toList_append, String.toList_ofList]
        simp
      rw [below, isAbsolute_of_notMem hn, if_neg (by simp), if_neg (by simp [hd, hl]), hpath,
        hslash _ _ hn, String.ofList_toList]

namespace Tree

/-- Different names in one directory are different places. -/
theorem Leads.below_inj (hn : '/' ∉ name.toList ∧ name ≠ "" ∧ name ≠ "." ∧ name ≠ "..")
    (ho : '/' ∉ other.toList ∧ other ≠ "" ∧ other ≠ "." ∧ other ≠ "..")
    (h : tree.Leads (below directory name) place) (h' : tree.Leads (below directory other) place) :
    name = other := by
  obtain ⟨front, hfront⟩ := parts_below directory
  have hplace : ∀ name, '/' ∉ name.toList ∧ name ≠ "" ∧ name ≠ "." ∧ name ≠ ".." →
      tree.Leads (below directory name) place → ∃ home, place = home ++ [name] := by
    intro name hn h
    have hl : (parts (below directory name)).getLast? ≠ some "" := by
      rw [hfront name hn.1, List.getLast?_concat]
      simpa using hn.2.1
    have hw := (resolve_eq_ok_iff.mp h.1).2.1
    rw [way_of_getLast? hl, hfront name hn.1] at hw
    obtain ⟨home, -, -, -, hp⟩ := (walk_concat hn.2 front).mp hw
    exact ⟨home, hp⟩
  obtain ⟨home, hp⟩ := hplace name hn h
  obtain ⟨home', hp'⟩ := hplace other ho h'
  exact List.singleton_inj.mp (List.append_inj' (hp.symm.trans hp') rfl).2

end Tree

end TapeMachine.Files
