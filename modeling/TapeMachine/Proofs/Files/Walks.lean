import TapeMachine.Proofs.Files.Paths

namespace TapeMachine.Files

namespace Tree

variable {tree a b : Tree} {start place : Place} {path base suffix : String}

/-- A place where a file is or can be. -/
def Free (tree : Tree) (place : Place) : Prop :=
  tree.node? place ≠ some .directory

instance (tree : Tree) (place : Place) : Decidable (tree.Free place) :=
  inferInstanceAs (Decidable (_ ≠ _))

theorem free_iff :
    tree.Free place ↔
      tree.node? place = none ∨ ∃ content, tree.node? place = some (.file content) := by
  rw [Free]
  rcases tree.node? place with _ | content | -
  · simp
  · simp
  · simp

theorem Free.ne_nil (h : tree.Free place) : place ≠ [] := by
  rintro rfl
  exact h rfl

/-- What is a directory in one tree is one in another. -/
def KeepsDirectories (a b : Tree) : Prop :=
  ∀ place, a.node? place = some .directory → b.node? place = some .directory

/-- Trees with the same directories differ in files at most. -/
def SameDirectories (a b : Tree) : Prop :=
  ∀ place, a.Free place ↔ b.Free place

theorem SameDirectories.refl (tree : Tree) : tree.SameDirectories tree :=
  fun _ => Iff.rfl

theorem SameDirectories.symm (h : a.SameDirectories b) : b.SameDirectories a :=
  fun place => (h place).symm

theorem SameDirectories.trans {c : Tree} (h : a.SameDirectories b) (h' : b.SameDirectories c) :
    a.SameDirectories c :=
  fun place => (h place).trans (h' place)

theorem SameDirectories.keeps (h : a.SameDirectories b) : a.KeepsDirectories b :=
  fun place => (Decidable.not_iff_not.mp (h place)).mp

/-- Where one part leads from a directory. -/
def into (place : Place) (part : String) : Except Problem Place :=
  if part = "" ∨ part = "." then .ok place
  else if part = ".." then .ok place.dropLast
  else if maxNameSize < part.utf8ByteSize then .error .nameTooLong
  else .ok (place ++ [part])

theorem walk_nil (tree : Tree) (start : Place) : tree.walk start [] = .ok start := rfl

theorem walk_cons (tree : Tree) (place : Place) (part : String) (rest : List String) :
    tree.walk place (part :: rest) =
      match tree.node? place with
      | none => .error .notFound
      | some (.file _) => .error .notDirectory
      | some .directory => (into place part).bind (tree.walk · rest) := by
  rw [walk]
  rcases tree.node? place with _ | content | -
  · rfl
  · rfl
  · unfold into
    dsimp only
    repeat' split
    all_goals rfl

/-- Only from a directory does a further part lead anywhere. -/
theorem walk_cons_eq_ok_iff {part : String} {rest : List String} :
    tree.walk start (part :: rest) = .ok place ↔
      tree.node? start = some .directory ∧
        ∃ next, into start part = .ok next ∧ tree.walk next rest = .ok place := by
  rw [walk_cons]
  rcases tree.node? start with _ | content | -
  · simp
  · simp
  · cases into start part <;> simp [Except.bind]

/-- Where parts lead depends on the directories alone. -/
theorem KeepsDirectories.walk (h : a.KeepsDirectories b) {start : Place} {parts : List String}
    (hw : a.walk start parts = .ok place) : b.walk start parts = .ok place := by
  induction parts generalizing start with
  | nil => exact hw
  | cons part rest ih =>
    obtain ⟨hd, next, hp, hw⟩ := walk_cons_eq_ok_iff.mp hw
    exact walk_cons_eq_ok_iff.mpr ⟨h start hd, next, hp, ih hw⟩

theorem into_problem {part : String} {problem : Problem} (h : into start part = .error problem) :
    problem = .nameTooLong := by
  unfold into at h
  repeat' split at h
  all_goals simp_all

/-- Parts that lead nowhere do so for the lack of something. -/
theorem walk_problem {start : Place} {parts : List String} {problem : Problem}
    (hw : tree.walk start parts = .error problem) : problem ≠ .nullCharacter := by
  rintro rfl
  induction parts generalizing start with
  | nil => simp [walk] at hw
  | cons part rest ih =>
    rw [walk_cons] at hw
    split at hw
    next => simp at hw
    next => simp at hw
    next =>
      cases hp : into start part with
      | error problem =>
        obtain rfl := into_problem hp
        simp [hp, Except.bind] at hw
      | ok next =>
        rw [hp] at hw
        exact ih hw

theorem flaw?_eq_none_iff :
    flaw? path = none ↔
      '\x00' ∉ path.toList ∧ path ≠ "" ∧ path.utf8ByteSize ≤ maxPathSize := by
  rw [flaw?, ← Nat.not_lt]
  repeat' split
  all_goals simp [*]

theorem resolve_eq_ok_iff {insisting : Bool} :
    tree.resolve path = .ok (place, insisting) ↔
      flaw? path = none ∧ tree.walk [] (way path) = .ok place ∧ insists path = insisting := by
  unfold resolve
  cases hf : flaw? path with
  | some problem => simp
  | none => cases hw : tree.walk [] (way path) <;> simp [Except.map]

theorem KeepsDirectories.resolve (h : a.KeepsDirectories b) {insisting : Bool}
    (hr : a.resolve path = .ok (place, insisting)) : b.resolve path = .ok (place, insisting) := by
  obtain ⟨hf, hw, hi⟩ := resolve_eq_ok_iff.mp hr
  exact resolve_eq_ok_iff.mpr ⟨hf, h.walk hw, hi⟩

/-- A path that insists on a directory finds nothing else. -/
theorem found?_eq_some_iff {node : Node} :
    tree.found? path = some node ↔
      ∃ place insisting, tree.resolve path = .ok (place, insisting) ∧
        tree.node? place = some node ∧ (insisting = true → node = .directory) := by
  rw [found?]
  cases tree.resolve path with
  | error problem => simp
  | ok found =>
    obtain ⟨place, insisting⟩ := found
    simp only [Except.ok.injEq, Prod.mk.injEq, and_assoc, exists_eq_left', exists_and_left]
    rcases tree.node? place with _ | content | -
    · simp
    · cases insisting <;> cases node <;> simp
    · simp +contextual [eq_comm]

theorem hasDirectory_iff :
    tree.hasDirectory path ↔
      ∃ place insisting, tree.resolve path = .ok (place, insisting) ∧
        tree.node? place = some .directory := by
  simp only [hasDirectory, decide_eq_true_eq, found?_eq_some_iff, implies_true, and_true]

theorem readBytes_eq_ok_iff {content : ByteArray} :
    tree.readBytes path = .ok content ↔
      ∃ place, tree.resolve path = .ok (place, false) ∧
        tree.node? place = some (.file content) := by
  rw [readBytes]
  cases tree.resolve path with
  | error problem => simp
  | ok found =>
    obtain ⟨place, insisting⟩ := found
    simp only [Except.ok.injEq, Prod.mk.injEq, and_assoc, exists_eq_left']
    rcases tree.node? place with _ | held | -
    · simp
    · cases insisting <;> simp
    · simp

theorem readText_eq_ok_iff {text : String} :
    tree.readText path = .ok text ↔
      ∃ bytes decoded, tree.readBytes path = .ok bytes ∧ Text.decode bytes = .ok decoded ∧
        text = String.ofList (Text.unifyLineEnds decoded.toList) := by
  rw [readText]
  cases tree.readBytes path with
  | error error => simp
  | ok bytes => cases hd : Text.decode bytes <;> simp [hd, eq_comm]

theorem hasDirectory_of_sameDirectories (h : a.SameDirectories b) (hd : a.hasDirectory path) :
    b.hasDirectory path := by
  obtain ⟨place, insisting, hr, hn⟩ := hasDirectory_iff.mp hd
  exact hasDirectory_iff.mpr ⟨place, insisting, h.keeps.resolve hr, h.keeps place hn⟩

theorem walk_append (tree : Tree) (start : Place) (parts rest : List String) :
    tree.walk start (parts ++ rest) = (tree.walk start parts).bind (tree.walk · rest) := by
  induction parts generalizing start with
  | nil => rfl
  | cons part parts ih =>
    rw [List.cons_append, walk_cons, walk_cons]
    split
    · rfl
    · rfl
    · cases into start part with
      | error problem => rfl
      | ok next => exact ih next

theorem walk_append_eq_ok_iff {parts rest : List String} :
    tree.walk start (parts ++ rest) = .ok place ↔
      ∃ between, tree.walk start parts = .ok between ∧ tree.walk between rest = .ok place := by
  rw [walk_append]
  cases tree.walk start parts <;> simp [Except.bind]

theorem into_proper {name : String} (hn : name ≠ "" ∧ name ≠ "." ∧ name ≠ "..") (home : Place) :
    into home name = .ok place ↔ name.utf8ByteSize ≤ maxNameSize ∧ place = home ++ [name] := by
  rw [into, if_neg (by simp [hn.1, hn.2.1]), if_neg hn.2.2]
  by_cases hl : maxNameSize < name.utf8ByteSize
  · simp [hl, Nat.not_le.mpr hl]
  · simp [hl, Nat.not_lt.mp hl, eq_comm]

/-- A proper name is looked for in the directory that the parts before it lead to. -/
theorem walk_concat {name : String} (hn : name ≠ "" ∧ name ≠ "." ∧ name ≠ "..")
    (parts : List String) :
    tree.walk start (parts ++ [name]) = .ok place ↔
      ∃ home, tree.walk start parts = .ok home ∧ tree.node? home = some .directory ∧
        name.utf8ByteSize ≤ maxNameSize ∧ place = home ++ [name] := by
  rw [walk_append_eq_ok_iff]
  refine exists_congr fun home => and_congr_right fun _ => ?_
  simp only [walk_cons_eq_ok_iff, walk_nil, Except.ok.injEq, exists_eq_right, ← into_proper hn]

theorem way_of_getLast? (h : (parts path).getLast? ≠ some "") : way path = parts path := by
  have hr : (parts path).reverse.dropWhile (fun part => decide (part = "")) =
      (parts path).reverse := by
    cases hp : (parts path).reverse with
    | nil => rfl
    | cons part rest =>
      rw [← List.head?_reverse, hp, List.head?_cons, ne_eq, Option.some.injEq] at h
      rw [List.dropWhile_cons_of_neg (by simpa using h)]
  rw [way, hr, List.reverse_reverse]

theorem insists_of_getLast? (h : (parts path).getLast? ≠ some "") : insists path = false := by
  rw [insists]
  simpa using h

theorem getLast?_parts_normal_append (h : IsEnding suffix) (base : String) :
    (parts (normal (base ++ suffix))).getLast? ≠ some "" := by
  rw [parts_normal_append h, List.getLast?_concat, ne_eq, Option.some.injEq]
  exact h.ne _ (by decide)

theorem way_normal_append (h : IsEnding suffix) (base : String) :
    way (normal (base ++ suffix)) = leadParts base ++ approach base ++ [lastPart base ++ suffix] := by
  rw [way_of_getLast? (getLast?_parts_normal_append h base), parts_normal_append h]

/-- A name with an ending resolves in the directory that the path before it names. -/
theorem resolve_normal_append (h : IsEnding suffix) {insisting : Bool} :
    tree.resolve (normal (base ++ suffix)) = .ok (place, insisting) ↔
      flaw? (normal (base ++ suffix)) = none ∧
        (∃ home, tree.walk [] (leadParts base ++ approach base) = .ok home ∧
          tree.node? home = some .directory ∧
          (lastPart base ++ suffix).utf8ByteSize ≤ maxNameSize ∧
          place = home ++ [lastPart base ++ suffix]) ∧ insisting = false := by
  rw [resolve_eq_ok_iff, way_normal_append h,
    insists_of_getLast? (getLast?_parts_normal_append h base),
    walk_concat ⟨h.ne _ (by decide), h.ne _ (by decide), h.ne _ (by decide)⟩, eq_comm (a := false)]

theorem null_mem_normal_append (h : IsEnding suffix) (base : String) :
    '\x00' ∈ (normal (base ++ suffix)).toList ↔
      ∃ part ∈ leadParts base ++ approach base ++ [lastPart base], '\x00' ∈ part.toList := by
  rw [mem_parts_iff (by decide), parts_normal_append h]
  simp only [List.mem_append, List.mem_singleton, or_and_right, exists_or, exists_eq_left,
    String.toList_append, h.null, or_false]

/-- Of two endings of one name both resolve beside each other, unless one is too long. -/
theorem resolve_sibling {first second : String} (h : IsEnding first) (h' : IsEnding second)
    {insisting : Bool} (hr : tree.resolve (normal (base ++ first)) = .ok (place, insisting)) :
    tree.resolve (normal (base ++ second)) = .error .nameTooLong ∨
      ∃ home, place = home ++ [lastPart base ++ first] ∧
        tree.resolve (normal (base ++ second)) =
          .ok (home ++ [lastPart base ++ second], false) := by
  obtain ⟨hf, ⟨home, hw, hd, _, rfl⟩, _⟩ := (resolve_normal_append h).mp hr
  have hnull : '\x00' ∉ (normal (base ++ second)).toList := by
    rw [null_mem_normal_append h', ← null_mem_normal_append h]
    exact (flaw?_eq_none_iff.mp hf).1
  have hempty : normal (base ++ second) ≠ "" := by
    intro he
    have hp := parts_normal_append h' base
    rw [he] at hp
    have hl := congrArg List.getLast? hp
    rw [List.getLast?_concat] at hl
    have hne : lastPart base ++ second ≠ "" := h'.ne _ (by decide)
    exact hne (Option.some.inj hl).symm
  by_cases hs : (normal (base ++ second)).utf8ByteSize ≤ maxPathSize ∧
      (lastPart base ++ second).utf8ByteSize ≤ maxNameSize
  · have hf' := flaw?_eq_none_iff.mpr ⟨hnull, hempty, hs.1⟩
    exact .inr ⟨home, rfl, (resolve_normal_append h').mpr ⟨hf', ⟨home, hw, hd, hs.2, rfl⟩, rfl⟩⟩
  · left
    rw [resolve, flaw?, if_neg hnull, if_neg hempty]
    by_cases hp : maxPathSize < (normal (base ++ second)).utf8ByteSize
    · rw [if_pos hp]
    · have hn : maxNameSize < (lastPart base ++ second).utf8ByteSize := by omega
      rw [if_neg hp, way_normal_append h', walk_append, hw]
      have he : lastPart base ++ second ≠ "" := h'.ne _ (by decide)
      have hd' : lastPart base ++ second ≠ "." := h'.ne _ (by decide)
      have hu : lastPart base ++ second ≠ ".." := h'.ne _ (by decide)
      simp only [Except.bind, walk, hd, he, hd', hu, hn, or_self, if_true, if_false, Except.map]

end Tree
end TapeMachine.Files
