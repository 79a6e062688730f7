import Mathlib.Logic.Relation
import TapeMachine.Proofs.Files.Walks

namespace TapeMachine.Files

open TapeMachine.Files.Tree

variable {path head : String}

theorem join_append {first second : List String} (h : first ≠ []) (h' : second ≠ []) :
    join (first ++ second) = join first ++ ("/" ++ join second) := by
  induction first with
  | nil => exact absurd rfl h
  | cons name first ih =>
    cases first with
    | nil =>
      obtain ⟨next, second, rfl⟩ := List.exists_cons_of_ne_nil h'
      simp [join, String.append_assoc]
    | cons next first =>
      have ih := ih (List.cons_ne_nil _ _)
      simp only [join, List.cons_append, String.intercalate_cons_cons, String.append_assoc] at ih ⊢
      rw [ih]

/-- A path above another is its beginning up to a separator, so it has some of its parts. -/
theorem mem_above (h : head ∈ above path) :
    ∃ rest, rest ≠ [] ∧ parts path = parts head ++ rest ∧ path = head ++ ("/" ++ join rest) ∧
      (parts head).getLast? ≠ some "" := by
  simp only [above, List.mem_map, List.mem_filter, decide_eq_true_eq] at h
  obtain ⟨names, ⟨⟨i, hi, rfl⟩, hl⟩, rfl⟩ := h
  have hpos : 0 < i ∧ i < (parts path).length := by
    rw [List.drop_one, List.range_eq_range', List.tail_range', List.mem_range'] at hi
    omega
  have hne : (parts path).take i ≠ [] := by
    rw [ne_eq, ← List.length_eq_zero_iff, List.length_take]
    omega
  have hd : (parts path).drop i ≠ [] := by
    rw [ne_eq, ← List.length_eq_zero_iff, List.length_drop]
    omega
  have hp : parts (join ((parts path).take i)) = (parts path).take i :=
    parts_join (fun name hn => slash_notMem_of_mem_parts (List.mem_of_mem_take hn)) hne
  refine ⟨(parts path).drop i, hd, ?_, ?_, ?_⟩
  · rw [hp, List.take_append_drop]
  · rw [← join_append hne hd, List.take_append_drop, join_parts]
  · rwa [hp]

namespace Tree

variable {tree a b : Tree}

theorem flaw?_of_mem_above (h : head ∈ above path) (hf : flaw? path = none) :
    flaw? head = none := by
  obtain ⟨rest, -, -, hp, hl⟩ := mem_above h
  obtain ⟨hnull, -, hsize⟩ := flaw?_eq_none_iff.mp hf
  rw [hp, String.toList_append, List.mem_append, not_or] at hnull
  rw [hp, String.utf8ByteSize_append] at hsize
  refine flaw?_eq_none_iff.mpr ⟨hnull.1, ?_, by omega⟩
  rintro rfl
  exact hl (by decide)

/-- The way of a path goes through those above it. -/
theorem way_of_mem_above (h : head ∈ above path) : ∃ rest, way path = way head ++ rest := by
  obtain ⟨rest, -, hp, -, hl⟩ := mem_above h
  have hw := way_of_getLast? hl
  rw [way] at hw
  rw [way_of_getLast? hl, way, hp, List.reverse_append, List.dropWhile_append]
  split
  · exact ⟨[], by rw [hw, List.append_nil]⟩
  · exact ⟨_, by rw [List.reverse_append, List.reverse_reverse]⟩

/-- Where a directory is, there are also those above it. -/
theorem pathExists_of_mem_above (h : tree.hasDirectory path) (hm : head ∈ above path) :
    tree.pathExists head := by
  obtain ⟨place, insisting, hr, hd⟩ := hasDirectory_iff.mp h
  obtain ⟨hf, hw, -⟩ := resolve_eq_ok_iff.mp hr
  obtain ⟨rest, hway⟩ := way_of_mem_above hm
  obtain ⟨-, -, -, -, hl⟩ := mem_above hm
  rw [hway] at hw
  obtain ⟨home, hh, hrest⟩ := walk_append_eq_ok_iff.mp hw
  have hhd : tree.node? home = some .directory := by
    cases rest with
    | nil =>
      cases hrest
      exact hd
    | cons part rest => exact (walk_cons_eq_ok_iff.mp hrest).1
  have hres := resolve_eq_ok_iff.mpr ⟨flaw?_of_mem_above hm hf, hh, insists_of_getLast? hl⟩
  rw [pathExists, found?, hres]
  simp [hhd]

theorem makeMissing_of_pathExists {paths : List String} (h : ∀ path ∈ paths, tree.pathExists path) :
    tree.makeMissing paths = (tree, none) := by
  induction paths with
  | nil => rfl
  | cons path paths ih =>
    rw [makeMissing, if_pos (h path List.mem_cons_self)]
    exact ih fun path hp => h path (List.mem_cons_of_mem _ hp)

/-- A directory that is there is not made again. -/
theorem makeDirectories_of_hasDirectory (h : tree.hasDirectory path) :
    tree.makeDirectories path = (tree, none) := by
  obtain ⟨place, insisting, hr, hd⟩ := hasDirectory_iff.mp h
  have hm := makeMissing_of_pathExists fun head hm => pathExists_of_mem_above h hm
  simp [makeDirectories, hm, makeDirectory, hr, hd, h]

theorem makeWholeWay_of_hasDirectory (h : tree.hasDirectory path) :
    tree.makeWholeWay path = (tree, none) := by
  obtain ⟨place, insisting, hr, -⟩ := hasDirectory_iff.mp h
  obtain ⟨hf, -, -⟩ := resolve_eq_ok_iff.mp hr
  rw [makeWholeWay, hf]
  exact makeDirectories_of_hasDirectory h

/-- A tree with all that another has. -/
def Extends (a b : Tree) : Prop :=
  ∀ place node, a.node? place = some node → b.node? place = some node

theorem Extends.refl (tree : Tree) : tree.Extends tree :=
  fun _ _ h => h

theorem Extends.trans {c : Tree} (h : a.Extends b) (h' : b.Extends c) : a.Extends c :=
  fun place node hn => h' place node (h place node hn)

theorem Extends.keepsDirectories (h : a.Extends b) : a.KeepsDirectories b :=
  fun place => h place .directory

theorem Extends.pathExists (h : a.Extends b) (hp : a.pathExists path) : b.pathExists path := by
  obtain ⟨node, hf⟩ := Option.isSome_iff_exists.mp hp
  obtain ⟨place, insisting, hr, hn, hi⟩ := found?_eq_some_iff.mp hf
  refine Option.isSome_iff_exists.mpr ⟨node, found?_eq_some_iff.mpr ?_⟩
  exact ⟨place, insisting, h.keepsDirectories.resolve hr, h place node hn, hi⟩

theorem Extends.readBytes {bytes : ByteArray} (h : a.Extends b) (hr : a.readBytes path = .ok bytes) :
    b.readBytes path = .ok bytes := by
  obtain ⟨place, hp, hn⟩ := readBytes_eq_ok_iff.mp hr
  exact readBytes_eq_ok_iff.mpr ⟨place, h.keepsDirectories.resolve hp, h place _ hn⟩

/-- A file that can be read stays as it is where nothing is lost. -/
theorem Extends.readText {text : String} (h : a.Extends b) (hr : a.readText path = .ok text) :
    b.readText path = .ok text := by
  obtain ⟨bytes, decoded, hb, hd, rfl⟩ := readText_eq_ok_iff.mp hr
  exact readText_eq_ok_iff.mpr ⟨bytes, decoded, h.readBytes hb, hd, rfl⟩

/-- A directory is made at a place that was empty. -/
theorem makeDirectory_eq_ok_iff :
    a.makeDirectory path = .ok b ↔
      ∃ place insisting, a.resolve path = .ok (place, insisting) ∧ a.node? place = none ∧
        b = a.set place .directory := by
  rw [makeDirectory]
  constructor
  · intro h
    split at h
    next => cases h
    next place insisting hr =>
      split at h
      next => cases h
      next hn =>
        cases h
        exact ⟨place, insisting, hr, hn, rfl⟩
  · rintro ⟨place, insisting, hr, hn, rfl⟩
    simp only [hr, hn]

theorem makeDirectory_extends (h : a.makeDirectory path = .ok b) : a.Extends b := by
  obtain ⟨place, insisting, -, hn, rfl⟩ := makeDirectory_eq_ok_iff.mp h
  intro other node ho
  have hne : other ≠ place := by
    rintro rfl
    cases hn.symm.trans ho
  rwa [node?_set_of_ne a hne]

theorem hasDirectory_of_makeDirectory (h : a.makeDirectory path = .ok b) :
    b.hasDirectory path := by
  have he := makeDirectory_extends h
  obtain ⟨place, insisting, hr, hn, rfl⟩ := makeDirectory_eq_ok_iff.mp h
  exact hasDirectory_iff.mpr ⟨place, insisting, he.keepsDirectories.resolve hr,
    node?_set_self a (free_iff.mpr (.inl hn)).ne_nil _⟩

theorem pathExists_of_hasDirectory (h : tree.hasDirectory path) : tree.pathExists path := by
  rw [hasDirectory, decide_eq_true_eq] at h
  rw [pathExists, h]
  rfl

/-- A tree that comes of another when directories are made one after the other. -/
def GrowsTo : Tree → Tree → Prop :=
  Relation.ReflTransGen fun a b => ∃ path, a.makeDirectory path = .ok b

theorem GrowsTo.extends (h : a.GrowsTo b) : a.Extends b := by
  induction h with
  | refl => exact .refl a
  | tail _ hd ih =>
    obtain ⟨path, hd⟩ := hd
    exact ih.trans (makeDirectory_extends hd)

theorem growsTo_of_makeMissing {paths : List String} {refusal : Option Error}
    (h : a.makeMissing paths = (b, refusal)) : a.GrowsTo b := by
  induction paths generalizing a with
  | nil =>
    cases h
    exact .refl
  | cons path paths ih =>
    rw [makeMissing] at h
    split at h
    next => exact ih h
    next =>
      split at h
      next hd => exact .head ⟨path, hd⟩ (ih h)
      next =>
        cases h
        exact .refl

/-- The ways in which it ends to make a directory and those above it. -/
inductive Makes (a : Tree) (path : String) : Tree → Option Error → Prop
  | above {b : Tree} {error : Error} (missing : a.makeMissing (above path) = (b, some error)) :
    Makes a path b (some error)
  | new {b c : Tree} (missing : a.makeMissing (above path) = (c, none))
    (made : c.makeDirectory path = .ok b) : Makes a path b none
  | there {b : Tree} {error : Error} (missing : a.makeMissing (above path) = (b, none))
    (refused : b.makeDirectory path = .error error) (has : b.hasDirectory path) : Makes a path b none
  | refused {b : Tree} {error : Error} (missing : a.makeMissing (above path) = (b, none))
    (refused : b.makeDirectory path = .error error) (lacks : ¬b.hasDirectory path) :
    Makes a path b (some error)

theorem makes_of_makeDirectories {refusal : Option Error}
    (h : a.makeDirectories path = (b, refusal)) : a.Makes path b refusal := by
  rw [makeDirectories] at h
  split at h
  next hm =>
    cases h
    exact .above hm
  next hm =>
    split at h
    next hd =>
      cases h
      exact .new hm hd
    next hr =>
      split at h
      next hd =>
        cases h
        exact .there hm hr hd
      next hd =>
        cases h
        exact .refused hm hr hd

theorem growsTo_of_makeDirectories {refusal : Option Error}
    (h : a.makeDirectories path = (b, refusal)) : a.GrowsTo b := by
  cases makes_of_makeDirectories h with
  | above hm => exact growsTo_of_makeMissing hm
  | new hm hd => exact .tail (growsTo_of_makeMissing hm) ⟨path, hd⟩
  | there hm => exact growsTo_of_makeMissing hm
  | refused hm => exact growsTo_of_makeMissing hm

theorem makeDirectories_extends {refusal : Option Error}
    (h : a.makeDirectories path = (b, refusal)) : a.Extends b :=
  (growsTo_of_makeDirectories h).extends

/-- What could be made is there, and what was refused once is refused again. -/
theorem makeMissing_again {paths : List String} {refusal : Option Error}
    (h : a.makeMissing paths = (b, refusal)) : b.makeMissing paths = (b, refusal) := by
  induction paths generalizing a with
  | nil =>
    cases h
    rfl
  | cons path paths ih =>
    rw [makeMissing] at h ⊢
    split at h
    next hp => rw [if_pos ((growsTo_of_makeMissing h).extends.pathExists hp), ih h]
    next hp =>
      split at h
      next hd =>
        have hp := pathExists_of_hasDirectory (hasDirectory_of_makeDirectory hd)
        rw [if_pos ((growsTo_of_makeMissing h).extends.pathExists hp), ih h]
      next hr =>
        cases h
        rw [if_neg hp, hr]

theorem hasDirectory_of_makeDirectories (h : a.makeDirectories path = (b, none)) :
    b.hasDirectory path := by
  cases makes_of_makeDirectories h with
  | new _ hd => exact hasDirectory_of_makeDirectory hd
  | there _ _ hd => exact hd

theorem hasDirectory_of_makeWholeWay (h : a.makeWholeWay path = (b, none)) :
    b.hasDirectory path := by
  rw [makeWholeWay] at h
  split at h
  next => simp at h
  next => exact hasDirectory_of_makeDirectories h

/-- A tree that differs from another in directories it has besides. -/
def Furnishes (a b : Tree) : Prop :=
  ∀ place, b.Free place → b.node? place = a.node? place

theorem Furnishes.trans {c : Tree} (h : a.Furnishes b) (he : b.Extends c)
    (h' : b.Furnishes c) : a.Furnishes c := by
  intro place hp
  have hm : b.Free place := fun hd => hp (he place _ hd)
  rw [h' place hp, h place hm]

theorem furnishes_of_makeDirectory (h : a.makeDirectory path = .ok b) :
    a.Furnishes b := by
  obtain ⟨place, insisting, -, hn, rfl⟩ := makeDirectory_eq_ok_iff.mp h
  intro other ho
  have hne : other ≠ place := by
    rintro rfl
    exact ho (node?_set_self a (free_iff.mpr (.inl hn)).ne_nil _)
  rw [node?_set_of_ne a hne]

theorem GrowsTo.furnishes (h : a.GrowsTo b) : a.Furnishes b := by
  induction h with
  | refl => exact fun _ _ => rfl
  | tail _ hd ih =>
    obtain ⟨path, hd⟩ := hd
    exact ih.trans (makeDirectory_extends hd) (furnishes_of_makeDirectory hd)

/-- To make directories changes no file. -/
theorem furnishes_of_makeDirectories {refusal : Option Error}
    (h : a.makeDirectories path = (b, refusal)) : a.Furnishes b :=
  (growsTo_of_makeDirectories h).furnishes

/-- What stood in the way of a directory still does. -/
theorem makeDirectories_again {error : Error} (h : a.makeDirectories path = (b, some error)) :
    b.makeDirectories path = (b, some error) := by
  rw [makeDirectories]
  cases makes_of_makeDirectories h with
  | above hm => rw [makeMissing_again hm]
  | refused hm hr hd => simp [makeMissing_again hm, hr, hd]

/-- To make a directory twice is to make it once. -/
theorem makeWholeWay_again {refusal : Option Error} (h : a.makeWholeWay path = (b, refusal)) :
    b.makeWholeWay path = (b, refusal) := by
  cases refusal with
  | none => exact makeWholeWay_of_hasDirectory (hasDirectory_of_makeWholeWay h)
  | some error =>
    rw [makeWholeWay] at h ⊢
    split at h
    next =>
      cases h
      rfl
    next => exact makeDirectories_again h

end Tree

end TapeMachine.Files
