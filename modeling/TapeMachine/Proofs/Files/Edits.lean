import TapeMachine.Proofs.Files.Walks
import TapeMachine.Proofs.Text.Lines

namespace TapeMachine.Files.Tree

variable {tree a b : Tree} {place other : Place} {path : String}

/-- The content of the file at a place, empty if there is none. -/
def bytesAt (tree : Tree) (place : Place) : ByteArray :=
  match tree.node? place with
  | some (.file content) => content
  | _ => .empty

theorem bytesAt_of_file {content : ByteArray} (h : tree.node? place = some (.file content)) :
    tree.bytesAt place = content := by
  rw [bytesAt, h]

theorem bytesAt_of_none (h : tree.node? place = none) : tree.bytesAt place = .empty := by
  rw [bytesAt, h]

theorem bytesAt_congr (h : a.node? place = b.node? place) : a.bytesAt place = b.bytesAt place := by
  rw [bytesAt, h, bytesAt]

/-- A change of what one file holds. -/
structure Edit where
  place : Place
  change : ByteArray → ByteArray

/-- Gives a file what an edit makes of its content; a file that is not there is empty. -/
def edit (tree : Tree) (e : Edit) : Tree :=
  tree.set e.place (.file (e.change (tree.bytesAt e.place)))

def editAll (tree : Tree) (edits : List Edit) : Tree :=
  edits.foldl edit tree

@[simp]
theorem editAll_nil (tree : Tree) : tree.editAll [] = tree := rfl

@[simp]
theorem editAll_cons (tree : Tree) (e : Edit) (edits : List Edit) :
    tree.editAll (e :: edits) = (tree.edit e).editAll edits := rfl

theorem editAll_append (tree : Tree) (first second : List Edit) :
    tree.editAll (first ++ second) = (tree.editAll first).editAll second :=
  List.foldl_append

theorem node?_edit_self {e : Edit} (h : tree.Free e.place) :
    (tree.edit e).node? e.place = some (.file (e.change (tree.bytesAt e.place))) :=
  node?_set_self tree h.ne_nil _

theorem node?_edit_of_ne {e : Edit} (h : other ≠ e.place) :
    (tree.edit e).node? other = tree.node? other :=
  node?_set_of_ne tree h _

theorem node?_editAll_of_notMem {edits : List Edit} (h : other ∉ edits.map Edit.place) :
    (tree.editAll edits).node? other = tree.node? other := by
  induction edits generalizing tree with
  | nil => rfl
  | cons e edits ih =>
    rw [List.map_cons, List.mem_cons, not_or] at h
    rw [editAll_cons, ih h.2, node?_edit_of_ne h.1]

theorem sameDirectories_edit {e : Edit} (h : tree.Free e.place) :
    tree.SameDirectories (tree.edit e) := by
  intro other
  by_cases ho : other = e.place
  · subst ho
    exact ⟨fun _ => free_iff.mpr (.inr ⟨_, node?_edit_self h⟩), fun _ => h⟩
  · rw [Free, Free, node?_edit_of_ne ho]

theorem sameDirectories_editAll {edits : List Edit} (h : ∀ e ∈ edits, tree.Free e.place) :
    tree.SameDirectories (tree.editAll edits) := by
  induction edits generalizing tree with
  | nil => exact .refl tree
  | cons e edits ih =>
    have hs := sameDirectories_edit (h e List.mem_cons_self)
    exact hs.trans (ih fun e he => (hs e.place).mp (h e (List.mem_cons_of_mem _ he)))

/-- Of edits of different files each gives its own file its content. -/
theorem node?_editAll_of_mem {edits : List Edit} (hd : (edits.map Edit.place).Nodup)
    (hf : ∀ e ∈ edits, tree.Free e.place) {e : Edit} (he : e ∈ edits) :
    (tree.editAll edits).node? e.place = some (.file (e.change (tree.bytesAt e.place))) := by
  induction edits generalizing tree with
  | nil => simp at he
  | cons first edits ih =>
    rw [List.map_cons, List.nodup_cons] at hd
    have hs := sameDirectories_edit (hf first List.mem_cons_self)
    rw [editAll_cons]
    rcases List.mem_cons.mp he with rfl | he
    · rw [node?_editAll_of_notMem hd.1, node?_edit_self (hf e List.mem_cons_self)]
    · have hne : e.place ≠ first.place := fun h => hd.1 (h ▸ List.mem_map_of_mem he)
      rw [ih hd.2 (fun e he => (hs e.place).mp (hf e (List.mem_cons_of_mem _ he))) he,
        bytesAt_congr (node?_edit_of_ne hne)]

/-- The path of a file that is there or can be written. -/
def Leads (tree : Tree) (path : String) (place : Place) : Prop :=
  tree.resolve path = .ok (place, false) ∧ tree.Free place

instance (tree : Tree) (path : String) (place : Place) : Decidable (tree.Leads path place) :=
  match h : tree.resolve path with
  | .ok found =>
    decidable_of_iff (found = (place, false) ∧ tree.Free place) (by rw [Leads, h, Except.ok.injEq])
  | .error _ => .isFalse fun hl => by simp [Leads, h] at hl

theorem Leads.of_sameDirectories (h : a.SameDirectories b) (hl : a.Leads path place) :
    b.Leads path place :=
  ⟨h.keeps.resolve hl.1, (h place).mp hl.2⟩

theorem Leads.target (h : tree.Leads path place) :
    tree.target path = .ok (place, tree.bytesAt place) := by
  obtain ⟨hr, hd⟩ := h
  obtain ⟨hf, hw, hi⟩ := resolve_eq_ok_iff.mp hr
  rw [Tree.target, if_neg (by simp [hi]), hr]
  rcases free_iff.mp hd with hn | ⟨content, hn⟩
  · simp [bytesAt, hn]
  · simp [bytesAt, hn]

theorem leads_of_target {content : ByteArray} (h : tree.target path = .ok (place, content)) :
    tree.Leads path place := by
  unfold Tree.target at h
  split at h
  next => simp at h
  next hi =>
    split at h
    next => simp at h
    next found insisting hr =>
      have hf := (resolve_eq_ok_iff.mp hr).1
      have hn := (resolve_eq_ok_iff.mp hr).2.2
      have : insisting = false := by
        cases insisting with
        | false => rfl
        | true => exact absurd ⟨hf, hn⟩ hi
      subst this
      split at h
      next => simp at h
      next hn =>
        cases h
        exact ⟨hr, free_iff.mpr (.inl hn)⟩
      next hn =>
        cases h
        exact ⟨hr, free_iff.mpr (.inr ⟨_, hn⟩)⟩

theorem Leads.append (h : tree.Leads path place) (text : String) :
    tree.append path text = .ok (tree.edit ⟨place, (· ++ text.toUTF8)⟩) := by
  rw [Tree.append, h.target]
  rfl

theorem Leads.write (h : tree.Leads path place) (text : String) :
    tree.write path text = .ok (tree.edit ⟨place, fun _ => text.toUTF8⟩) := by
  rw [Tree.write, h.target]
  rfl

theorem Leads.readBytes {content : ByteArray} (h : tree.Leads path place)
    (hn : tree.node? place = some (.file content)) : tree.readBytes path = .ok content :=
  readBytes_eq_ok_iff.mpr ⟨place, h.1, hn⟩

theorem Leads.readText {text : String} (h : tree.Leads path place)
    (hn : tree.node? place = some (.file text.toUTF8)) (ht : '\r' ∉ text.toList) :
    tree.readText path = .ok text := by
  refine readText_eq_ok_iff.mpr ⟨text.toUTF8, text, h.readBytes hn, Text.decode_toUTF8 text, ?_⟩
  rw [Text.unifyLineEnds_of_notMem ht, String.ofList_toList]

/-- A path that is read as before, or refused as before, where its file is as before. -/
theorem readText_of_sameDirectories (h : a.SameDirectories b)
    (hn : ∀ place insisting, a.resolve path = .ok (place, insisting) →
      b.node? place = a.node? place) :
    b.readText path = a.readText path ∨ ∃ error error' : Error,
      a.readText path = .error (.refused error) ∧ b.readText path = .error (.refused error') ∧
        error.problem ≠ .nullCharacter ∧ error'.problem ≠ .nullCharacter := by
  cases hf : flaw? path with
  | some problem =>
    left
    simp [readText, Tree.readBytes, resolve, hf]
  | none =>
    cases hw : a.walk [] (way path) with
    | ok place =>
      left
      have hr := resolve_eq_ok_iff.mpr ⟨hf, hw, rfl⟩
      simp only [readText, Tree.readBytes, hr, h.keeps.resolve hr, hn _ _ hr]
    | error problem =>
      cases hw' : b.walk [] (way path) with
      | ok place => simp [h.symm.keeps.walk hw'] at hw
      | error problem' =>
        right
        refine ⟨⟨problem, path⟩, ⟨problem', path⟩, ?_, ?_, walk_problem hw, walk_problem hw'⟩
        · simp [readText, Tree.readBytes, resolve, hf, hw, Except.map]
        · simp [readText, Tree.readBytes, resolve, hf, hw', Except.map]

/-- The content of the file at a path, if one is there. -/
def content? (tree : Tree) (path : String) : Option ByteArray :=
  match tree.found? path with
  | some (.file content) => some content
  | _ => none

theorem content?_eq_some_iff {content : ByteArray} :
    tree.content? path = some content ↔
      ∃ place, tree.Leads path place ∧ tree.node? place = some (.file content) := by
  have hfound : tree.content? path = some content ↔ tree.found? path = some (.file content) := by
    rw [content?]
    rcases tree.found? path with _ | held | -
    · simp
    · simp
    · simp
  rw [hfound, found?_eq_some_iff]
  constructor
  · rintro ⟨place, insisting, hr, hn, hi⟩
    obtain rfl : insisting = false := by simpa using hi
    exact ⟨place, ⟨hr, free_iff.mpr (.inr ⟨content, hn⟩)⟩, hn⟩
  · rintro ⟨place, hl, hn⟩
    exact ⟨place, false, hl.1, hn, nofun⟩

theorem Leads.content?_eq_none_iff (h : tree.Leads path place) :
    tree.content? path = none ↔ tree.node? place = none := by
  rw [content?, found?, h.1]
  rcases free_iff.mp h.2 with hn | ⟨content, hn⟩
  · simp [hn]
  · simp [hn]

theorem Leads.getD_content? (h : tree.Leads path place) :
    (tree.content? path).getD .empty = tree.bytesAt place := by
  rcases free_iff.mp h.2 with hn | ⟨content, hn⟩
  · rw [h.content?_eq_none_iff.mpr hn, bytesAt_of_none hn, Option.getD_none]
  · rw [content?_eq_some_iff.mpr ⟨place, h, hn⟩, bytesAt_of_file hn, Option.getD_some]

theorem replace_replace (place : Place) (first second : Node) (nodes : List (Place × Node)) :
    replace place second (replace place first nodes) = replace place second nodes := by
  induction nodes with
  | nil => simp [replace]
  | cons entry rest ih =>
    by_cases h : entry.1 = place
    · simp [replace, h]
    · simp [replace, h, ih]

theorem replace_comm (hne : place ≠ other) (node next : Node) {nodes : List (Place × Node)}
    (h : nodes.lookup place ≠ none) :
    replace place node (replace other next nodes) =
      replace other next (replace place node nodes) := by
  induction nodes with
  | nil => exact absurd rfl h
  | cons entry rest ih =>
    obtain ⟨name, old⟩ := entry
    by_cases hp : name = place
    · subst hp
      simp [replace, hne]
    · by_cases ho : name = other
      · subst ho
        simp [replace, hp]
      · have hr : rest.lookup place ≠ none := by
          rw [List.lookup_cons, beq_eq_false_iff_ne.mpr (Ne.symm hp)] at h
          exact h
        simp [replace, hp, ho, ih hr]

theorem replace_self {node : Node} {nodes : List (Place × Node)}
    (h : nodes.lookup place = some node) : replace place node nodes = nodes := by
  induction nodes with
  | nil => simp at h
  | cons entry rest ih =>
    obtain ⟨name, old⟩ := entry
    by_cases hp : name = place
    · subst hp
      simp only [List.lookup_cons, beq_self_eq_true, Option.some.injEq] at h
      simp [replace, h]
    · rw [List.lookup_cons, beq_eq_false_iff_ne.mpr (Ne.symm hp)] at h
      simp [replace, hp, ih h]

theorem node?_eq_lookup (tree : Tree) (h : place ≠ []) :
    tree.node? place = tree.nodes.lookup place := by
  cases place with
  | nil => exact absurd rfl h
  | cons name names => rfl

/-- An edit that keeps the content of a file that is there changes nothing. -/
theorem edit_of_keeps {e : Edit} {content : ByteArray}
    (hn : tree.node? e.place = some (.file content)) (hc : e.change content = content) :
    tree.edit e = tree := by
  have hne := (free_iff.mpr (.inr ⟨content, hn⟩)).ne_nil
  rw [edit, bytesAt_of_file hn, hc, set, replace_self (by rw [← node?_eq_lookup tree hne, hn])]

/-- Two edits of one file in a row are one. -/
theorem edit_edit (h : tree.Free place) (first second : ByteArray → ByteArray) :
    (tree.edit ⟨place, first⟩).edit ⟨place, second⟩ = tree.edit ⟨place, second ∘ first⟩ := by
  have hn := node?_edit_self (e := ⟨place, first⟩) h
  rw [edit, bytesAt_of_file hn, edit, set, set, replace_replace]
  rfl

/-- An edit of a file that is there can be done before that of another. -/
theorem edit_comm (hne : place ≠ other) (change next : ByteArray → ByteArray)
    (h : tree.Free place) (hn : tree.node? place ≠ none) :
    (tree.edit ⟨other, next⟩).edit ⟨place, change⟩ =
      (tree.edit ⟨place, change⟩).edit ⟨other, next⟩ := by
  have hp : (tree.edit ⟨other, next⟩).bytesAt place = tree.bytesAt place :=
    bytesAt_congr (node?_edit_of_ne hne)
  have ho : (tree.edit ⟨place, change⟩).bytesAt other = tree.bytesAt other :=
    bytesAt_congr (node?_edit_of_ne hne.symm)
  have hl : tree.nodes.lookup place ≠ none := node?_eq_lookup tree h.ne_nil ▸ hn
  calc (tree.edit ⟨other, next⟩).edit ⟨place, change⟩
      = (tree.edit ⟨other, next⟩).set place (.file (change (tree.bytesAt place))) := by
        rw [← hp, edit]
    _ = (tree.edit ⟨place, change⟩).set other (.file (next (tree.bytesAt other))) :=
        congrArg Tree.mk (replace_comm hne _ _ hl)
    _ = (tree.edit ⟨place, change⟩).edit ⟨other, next⟩ := by
        rw [← ho, ← edit.eq_def _ ⟨other, next⟩]

theorem edit_editAll_comm {edits : List Edit} (hp : place ∉ edits.map Edit.place)
    (change : ByteArray → ByteArray) (h : tree.Free place) (hn : tree.node? place ≠ none)
    (hf : ∀ e ∈ edits, tree.Free e.place) :
    (tree.editAll edits).edit ⟨place, change⟩ = (tree.edit ⟨place, change⟩).editAll edits := by
  induction edits generalizing tree with
  | nil => rfl
  | cons e edits ih =>
    rw [List.map_cons, List.mem_cons, not_or] at hp
    have hs := sameDirectories_edit (hf e List.mem_cons_self)
    rw [editAll_cons, ih hp.2 ((hs place).mp h) (by rwa [node?_edit_of_ne hp.1])
      fun e he => (hs e.place).mp (hf e (List.mem_cons_of_mem _ he)),
      edit_comm hp.1 change e.change h hn, editAll_cons]

/-- Edits of the same files in a row are one edit of each file. -/
theorem editAll_editAll {first second : List Edit}
    (hp : first.map Edit.place = second.map Edit.place) (hd : (first.map Edit.place).Nodup)
    (hf : ∀ e ∈ first, tree.Free e.place) :
    (tree.editAll first).editAll second =
      tree.editAll (List.zipWith (fun e e' => ⟨e.place, e'.change ∘ e.change⟩) first second) := by
  induction first generalizing second tree with
  | nil =>
    rw [List.map_nil, eq_comm, List.map_eq_nil_iff] at hp
    rw [hp]
    rfl
  | cons e first ih =>
    obtain ⟨e', rest, rfl⟩ : ∃ e' rest, second = e' :: rest :=
      List.exists_cons_of_ne_nil fun h => by simp [h] at hp
    simp only [List.map_cons, List.cons.injEq] at hp
    obtain ⟨he, hp⟩ := hp
    obtain ⟨place, change⟩ := e
    obtain ⟨place', change'⟩ := e'
    simp only at he
    subst he
    rw [List.map_cons, List.nodup_cons] at hd
    have h := hf _ List.mem_cons_self
    have hs := sameDirectories_edit h
    have hrest : ∀ e ∈ first, (tree.edit ⟨place, change⟩).Free e.place :=
      fun e he => (hs e.place).mp (hf e (List.mem_cons_of_mem _ he))
    have hs' := sameDirectories_edit (e := ⟨place, change'⟩) ((hs place).mp h)
    -- The second edit of the first file goes ahead of the edits of the others.
    rw [editAll_cons, editAll_cons, edit_editAll_comm hd.1 change' ((hs place).mp h)
      (by simp [node?_edit_self h]) hrest, ih hp hd.2 fun e he => (hs' e.place).mp (hrest e he),
      edit_edit h, List.zipWith_cons_cons, editAll_cons]

end TapeMachine.Files.Tree
