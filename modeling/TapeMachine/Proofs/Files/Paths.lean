import TapeMachine.Files.Tree

namespace TapeMachine.Text

variable {separator : Char} {text part : List Char}

theorem consLine_eq_modifyHead (c : Char) {pieces : List (List Char)} (h : pieces ≠ []) :
    consLine c pieces = pieces.modifyHead (c :: ·) := by
  obtain ⟨piece, pieces, rfl⟩ := List.exists_cons_of_ne_nil h
  rfl

theorem splitOn_eq (separator : Char) (text : List Char) :
    splitOn separator text = text.splitOn separator := by
  induction text with
  | nil => simp [splitOn]
  | cons c text ih =>
    rw [splitOn, List.splitOn_cons_eq_if_modifyHead, ih,
      consLine_eq_modifyHead c (List.splitOn_ne_nil separator text)]
    simp only [beq_iff_eq]

theorem notMem_of_mem_splitOn (h : part ∈ text.splitOn separator) : separator ∉ part := by
  induction text generalizing part with
  | nil =>
    rw [List.splitOn_nil, List.mem_singleton] at h
    simp [h]
  | cons c text ih =>
    obtain ⟨first, rest, hs⟩ :=
      List.exists_cons_of_ne_nil (List.splitOn_ne_nil separator text)
    rw [List.splitOn_cons_eq_if_modifyHead, hs] at h
    rw [hs] at ih
    split at h
    next =>
      rcases List.mem_cons.mp h with rfl | h
      · exact List.not_mem_nil
      · exact ih h
    next hc =>
      rw [List.modifyHead_cons] at h
      rcases List.mem_cons.mp h with rfl | h
      · rw [beq_iff_eq] at hc
        simp only [List.mem_cons, not_or]
        exact ⟨Ne.symm hc, ih List.mem_cons_self⟩
      · exact ih (List.mem_cons_of_mem _ h)

/-- What is added to a text without separators goes to its last part. -/
theorem splitOn_append {tail : List Char} (h : separator ∉ tail) (text : List Char) :
    (text ++ tail).splitOn separator =
      (text.splitOn separator).dropLast ++
        [(text.splitOn separator).getLast (List.splitOn_ne_nil _ _) ++ tail] := by
  induction text with
  | nil => simp [List.splitOn_eq_singleton h]
  | cons c text ih =>
    obtain ⟨first, rest, hs⟩ :=
      List.exists_cons_of_ne_nil (List.splitOn_ne_nil separator text)
    simp only [List.cons_append, List.splitOn_cons_eq_if_modifyHead, ih, hs]
    split
    next => simp
    next => cases rest <;> simp

end TapeMachine.Text

namespace TapeMachine.Files

open Text

variable {path base suffix name : String} {names : List String}

theorem parts_eq (path : String) :
    parts path = (path.toList.splitOn '/').map String.ofList := by
  rw [parts, splitOn_eq]

theorem parts_ne_nil (path : String) : parts path ≠ [] := by
  simp [parts_eq, List.splitOn_ne_nil]

theorem slash_notMem_of_mem_parts (h : name ∈ parts path) : '/' ∉ name.toList := by
  rw [parts_eq, List.mem_map] at h
  obtain ⟨part, hp, rfl⟩ := h
  rw [String.toList_ofList]
  exact notMem_of_mem_splitOn hp

theorem toList_join (names : List String) :
    (join names).toList = ['/'].intercalate (names.map String.toList) := by
  rw [join, String.toList_intercalate]
  rfl

theorem parts_join (h : ∀ name ∈ names, '/' ∉ name.toList) (hne : names ≠ []) :
    parts (join names) = names := by
  rw [parts_eq, toList_join, List.splitOn_intercalate]
  · simp [Function.comp_def]
  · simpa using h
  · simpa using hne

theorem join_parts (path : String) : join (parts path) = path := by
  rw [← String.toList_inj, toList_join, parts_eq, List.map_map]
  simp [Function.comp_def, List.intercalate_splitOn]

theorem parts_append (h : '/' ∉ suffix.toList) (base : String) :
    parts (base ++ suffix) =
      (parts base).dropLast ++ [(parts base).getLast (parts_ne_nil base) ++ suffix] := by
  simp only [parts_eq, String.toList_append, splitOn_append h, List.map_append, List.map_cons,
    List.map_nil, List.map_dropLast, List.getLast_map]
  rw [String.ofList_append, String.ofList_toList]

theorem parts_slash_append (path : String) : parts ("/" ++ path) = "" :: parts path := by
  have h : ("/" ++ path).toList = '/' :: path.toList := by
    rw [String.toList_append]
    rfl
  rw [parts_eq, h, List.splitOn_cons_eq_if_modifyHead, parts_eq]
  simp

/-- What a path begins with. -/
def lead (path : String) : String :=
  if isAbsolute path then "/" else ""

/-- The same as parts. -/
def leadParts (path : String) : List String :=
  if isAbsolute path then [""] else []

theorem parts_lead_join (path : String) (h : ∀ name ∈ names, '/' ∉ name.toList)
    (hne : names ≠ []) : parts (lead path ++ join names) = leadParts path ++ names := by
  unfold lead leadParts
  split
  next => rw [parts_slash_append, parts_join h hne, List.singleton_append]
  next => rw [String.empty_append, parts_join h hne, List.nil_append]

theorem slash_notMem_of_mem_properParts (h : name ∈ properParts path) : '/' ∉ name.toList :=
  slash_notMem_of_mem_parts (List.mem_filter.mp h).1

theorem normal_of_properParts (h : properParts path ≠ []) :
    normal path = lead path ++ join (properParts path) := by
  unfold normal
  split
  next he => exact absurd he h
  next => rfl

theorem isAbsolute_lead_join (path : String) (h : ∀ name ∈ names, name ≠ "" ∧ '/' ∉ name.toList)
    (hne : names ≠ []) : isAbsolute (lead path ++ join names) = isAbsolute path := by
  unfold lead
  split
  next ha =>
    rw [ha, isAbsolute, String.toList_append]
    rfl
  next ha =>
    obtain ⟨name, names, rfl⟩ := List.exists_cons_of_ne_nil hne
    obtain ⟨hn, hs⟩ := h name List.mem_cons_self
    obtain ⟨c, tail, ht⟩ := List.exists_cons_of_ne_nil
      (show name.toList ≠ [] by simpa using hn)
    have hc : c ≠ '/' := by
      rintro rfl
      exact hs (ht ▸ List.mem_cons_self)
    rw [Bool.not_eq_true] at ha
    rw [ha, String.empty_append, isAbsolute, toList_join]
    cases names <;> simp [ht, hc]

theorem properParts_lead_join (path : String)
    (h : ∀ name ∈ names, name ≠ "" ∧ name ≠ "." ∧ '/' ∉ name.toList) (hne : names ≠ []) :
    properParts (lead path ++ join names) = names := by
  rw [properParts, parts_lead_join path (fun name hn => (h name hn).2.2) hne, List.filter_append]
  have hl : (leadParts path).filter (fun part => part ≠ "" ∧ part ≠ ".") = [] := by
    unfold leadParts
    split <;> simp
  rw [hl, List.nil_append, List.filter_eq_self]
  intro name hn
  simp [(h name hn).1, (h name hn).2.1]

theorem normal_normal (path : String) : normal (normal path) = normal path := by
  by_cases hp : properParts path = []
  · have hn : normal path = "/" ∨ normal path = "." := by
      rw [normal, hp]
      cases isAbsolute path <;> simp
    rcases hn with hn | hn <;> rw [hn] <;> decide
  · have h : ∀ name ∈ properParts path, name ≠ "" ∧ name ≠ "." ∧ '/' ∉ name.toList := by
      intro name hn
      have hf := (List.mem_filter.mp hn).2
      simp only [ne_eq, decide_eq_true_eq] at hf
      exact ⟨hf.1, hf.2, slash_notMem_of_mem_properParts hn⟩
    have hpp := properParts_lead_join path h hp
    have ha := isAbsolute_lead_join path (fun name hn => ⟨(h name hn).1, (h name hn).2.2⟩) hp
    rw [normal_of_properParts hp, normal_of_properParts (by rwa [hpp]), hpp, lead, ha, ← lead]

/-- Even the empty path has a name. -/
theorem normal_ne_empty (path : String) : normal path ≠ "" := by
  intro h
  have hn := normal_normal path
  rw [h] at hn
  exact absurd hn (by decide)

/-- The parts of a path but the last, without those that stay in place. -/
def approach (base : String) : List String :=
  (parts base).dropLast.filter fun part => part ≠ "" ∧ part ≠ "."

def lastPart (base : String) : String :=
  (parts base).getLast (parts_ne_nil base)

/-- An ending for names of files: it makes any name a proper one. -/
structure IsEnding (suffix : String) : Prop where
  slash : '/' ∉ suffix.toList
  null : '\x00' ∉ suffix.toList
  length : 2 < suffix.toList.length

theorem IsEnding.ne (h : IsEnding suffix) (name : String) {short : String}
    (hs : short.toList.length ≤ 2) : name ++ suffix ≠ short := by
  rintro rfl
  have := h.length
  rw [String.toList_append, List.length_append] at hs
  omega

theorem isAbsolute_append (h : '/' ∉ suffix.toList) (base : String) :
    isAbsolute (base ++ suffix) = isAbsolute base := by
  rw [isAbsolute, isAbsolute, String.toList_append]
  cases hb : base.toList with
  | cons c tail => rfl
  | nil =>
    cases hs : suffix.toList with
    | nil => rfl
    | cons c tail =>
      rw [hs, List.mem_cons, not_or] at h
      simp [Ne.symm h.1]

/-- A name with an ending goes to the directory that the path before it names. -/
theorem normal_append (h : IsEnding suffix) (base : String) :
    normal (base ++ suffix) = lead base ++ join (approach base ++ [lastPart base ++ suffix]) := by
  have hp : properParts (base ++ suffix) = approach base ++ [lastPart base ++ suffix] := by
    rw [properParts, parts_append h.slash, List.filter_append, approach]
    have hn : lastPart base ++ suffix ≠ "" := h.ne _ (by decide)
    have hd : lastPart base ++ suffix ≠ "." := h.ne _ (by decide)
    rw [← lastPart, List.filter_cons_of_pos (by simp [hn, hd]), List.filter_nil]
  rw [normal_of_properParts (by simp [hp]), hp, lead, isAbsolute_append h.slash, ← lead]

theorem slash_notMem_approach (h : IsEnding suffix) (base : String) :
    ∀ name ∈ approach base ++ [lastPart base ++ suffix], '/' ∉ name.toList := by
  intro name hn
  rcases List.mem_append.mp hn with hn | hn
  · exact slash_notMem_of_mem_parts ((List.dropLast_sublist _).subset (List.mem_filter.mp hn).1)
  · rw [List.mem_singleton.mp hn, String.toList_append, List.mem_append, not_or]
    exact ⟨slash_notMem_of_mem_parts (List.getLast_mem _), h.slash⟩

theorem parts_normal_append (h : IsEnding suffix) (base : String) :
    parts (normal (base ++ suffix)) =
      leadParts base ++ approach base ++ [lastPart base ++ suffix] := by
  rw [normal_append h, parts_lead_join base (slash_notMem_approach h base) (by simp),
    List.append_assoc]

theorem below_append (h : '/' ∉ suffix.toList) (directory name : String) :
    below directory (name ++ suffix) = below directory name ++ suffix := by
  simp only [below, isAbsolute_append h]
  split
  · rfl
  · split <;> simp [String.append_assoc]

/-- A character of a path other than the separator stands in one of its parts. -/
theorem mem_parts_iff {c : Char} (hc : c ≠ '/') (path : String) :
    c ∈ path.toList ↔ ∃ part ∈ parts path, c ∈ part.toList := by
  rw [← join_parts path, toList_join, join_parts]
  generalize parts path = names
  induction names with
  | nil => simp
  | cons name names ih =>
    cases names with
    | nil => simp
    | cons next names =>
      simp only [List.map_cons, List.intercalate_cons_cons, List.mem_append] at ih ⊢
      rw [ih]
      simp [hc]

end TapeMachine.Files
