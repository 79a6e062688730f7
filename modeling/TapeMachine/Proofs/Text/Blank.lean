import Mathlib.Data.List.DropRight
import TapeMachine.Text.Blank
import TapeMachine.Text.Lines
import TapeMachine.Text.Word

namespace TapeMachine.Text

variable {text left right : List Char} {c : Char}

theorem forall_eq_false_of_all {p : Char → Bool} (h : text.all (fun c => !p c) = true) :
    ∀ c ∈ text, p c = false := by
  simpa using h

theorem trimLeft_append_cons (left right : List Char) (h : isBlank c = false) :
    trimLeft (left ++ c :: right) = trimLeft left ++ c :: right := by
  induction left with
  | nil => simp [trimLeft, h]
  | cons d left ih =>
    cases hd : isBlank d with
    | true => simpa [trimLeft, hd] using ih
    | false => simp [trimLeft, hd]

theorem trimRight_append_cons (left right : List Char) (h : isBlank c = false) :
    trimRight (left ++ c :: right) = left ++ c :: trimRight right := by
  have hr := trimLeft_append_cons right.reverse left.reverse h
  simp only [trimLeft] at hr
  simp [trimRight, hr]

/-- What lies on either side of a character that is no blank is trimmed for itself. -/
theorem trim_append_cons (left right : List Char) (h : isBlank c = false) :
    trim (left ++ c :: right) = trimLeft left ++ c :: trimRight right := by
  rw [trim, trimLeft_append_cons left right h, trimRight_append_cons _ right h]

theorem trim_cons (right : List Char) (h : isBlank c = false) :
    trim (c :: right) = c :: trimRight right :=
  trim_append_cons [] right h

theorem trimLeft_eq_nil_iff : trimLeft text = [] ↔ ∀ c ∈ text, isBlank c = true :=
  List.dropWhile_eq_nil_iff

theorem trimLeft_append_of_blank (h : ∀ c ∈ left, isBlank c = true) :
    trimLeft (left ++ right) = trimLeft right :=
  List.dropWhile_append_of_pos h

theorem trimRight_append_of_blank (h : ∀ c ∈ right, isBlank c = true) :
    trimRight (left ++ right) = trimRight left := by
  have hr : trimLeft (right.reverse ++ left.reverse) = trimLeft left.reverse :=
    trimLeft_append_of_blank fun c hc => h c (List.mem_reverse.mp hc)
  simp only [trimLeft] at hr
  simp [trimRight, hr]

theorem trim_blank_append (h : ∀ c ∈ left, isBlank c = true) :
    trim (left ++ right) = trim right := by
  rw [trim, trimLeft_append_of_blank h, trim]

theorem trim_append_blank (h : ∀ c ∈ right, isBlank c = true) :
    trim (left ++ right) = trim left := by
  rw [trim, trim, trimLeft, List.dropWhile_append, ← trimLeft, ← trimLeft]
  split
  next hl => rw [trimLeft_eq_nil_iff.mpr h, List.isEmpty_iff.mp hl]
  next => exact trimRight_append_of_blank h

/-- A text of blanks only, or one with characters that are no blanks first and last between them. -/
theorem exists_trim (text : List Char) :
    ∃ before after, text = before ++ trim text ++ after ∧
      (∀ c ∈ before, isBlank c = true) ∧ ∀ c ∈ after, isBlank c = true := by
  refine ⟨text.takeWhile isBlank, (trimLeft text).rtakeWhile isBlank, ?_, ?_, ?_⟩
  · rw [trim, List.append_assoc, trimRight, ← List.rdropWhile, List.rdropWhile_append_rtakeWhile]
    exact List.takeWhile_append_dropWhile.symm
  · exact fun c hc => List.mem_takeWhile_imp hc
  · exact fun c hc => List.mem_rtakeWhile_imp hc

theorem mem_of_mem_trim (h : c ∈ trim text) : c ∈ text := by
  obtain ⟨before, after, he, _⟩ := exists_trim text
  rw [he]
  simp [h]

theorem isBlank_head_trimLeft (h : (trimLeft text).head? = some c) : isBlank c = false := by
  have hd := List.head?_dropWhile_not isBlank text
  rw [trimLeft] at h
  rwa [h] at hd

theorem isBlank_getLast_trimRight (h : (trimRight text).getLast? = some c) :
    isBlank c = false := by
  rw [trimRight, List.getLast?_reverse] at h
  exact isBlank_head_trimLeft h

theorem trimLeft_eq_self (h : ∀ c, text.head? = some c → isBlank c = false) :
    trimLeft text = text := by
  cases text with
  | nil => rfl
  | cons c rest => simp [trimLeft, h c rfl]

theorem trimRight_eq_self (h : ∀ c, text.getLast? = some c → isBlank c = false) :
    trimRight text = text := by
  have hr : trimLeft text.reverse = text.reverse :=
    trimLeft_eq_self fun c hc => h c (by rwa [List.head?_reverse] at hc)
  simp only [trimLeft] at hr
  simp [trimRight, hr]

theorem head?_trim : (trim text).head? = some c → isBlank c = false := by
  intro h
  cases ht : trimLeft text with
  | nil => simp [trim, ht, trimRight] at h
  | cons d rest =>
    have hd : isBlank d = false := isBlank_head_trimLeft (by rw [ht]; rfl)
    rw [trim, ht] at h
    have := trimRight_append_cons [] rest hd
    simp only [List.nil_append] at this
    rw [this] at h
    simp only [List.head?_cons, Option.some.injEq] at h
    rwa [← h]

theorem trim_eq_self_iff :
    trim text = text ↔ (∀ c, text.head? = some c → isBlank c = false) ∧
      ∀ c, text.getLast? = some c → isBlank c = false := by
  constructor
  · intro h
    refine ⟨fun c hc => ?_, fun c hc => ?_⟩
    · rw [← h] at hc
      exact head?_trim hc
    · rw [← h] at hc
      exact isBlank_getLast_trimRight hc
  · rintro ⟨hh, hl⟩
    rw [trim, trimLeft_eq_self hh, trimRight_eq_self hl]

theorem trim_trim (text : List Char) : trim (trim text) = trim text :=
  trim_eq_self_iff.mpr ⟨fun _ => head?_trim, fun _ => isBlank_getLast_trimRight⟩

theorem trim_eq_nil_iff : trim text = [] ↔ ∀ c ∈ text, isBlank c = true := by
  constructor
  · intro h
    obtain ⟨before, after, he, hb, ha⟩ := exists_trim text
    rw [h, List.append_nil] at he
    rw [he]
    intro c hc
    exact (List.mem_append.mp hc).elim (hb c) (ha c)
  · intro h
    rw [trim, trimLeft_eq_nil_iff.mpr h]
    rfl

theorem firstWord_eq_self (h : ∀ c ∈ text, isBlank c = false) : firstWord text = text := by
  have hl : trimLeft text = text := trimLeft_eq_self fun c hc => h c (List.mem_of_head? hc)
  rw [firstWord, hl, List.takeWhile_eq_self_iff]
  intro c hc
  simp [h c hc]

theorem isBlank_firstWord (h : c ∈ firstWord text) : isBlank c = false := by
  simpa using List.mem_takeWhile_imp h

theorem isBlank_of_isLineEnd (h : isLineEnd c = true) : isBlank c = true := by
  simp only [isLineEnd, isBlank, Bool.or_eq_true, Bool.and_eq_true, decide_eq_true_eq,
    beq_iff_eq] at h ⊢
  omega

theorem isLineEnd_of_not_blank (h : isBlank c = false) : isLineEnd c = false := by
  cases hl : isLineEnd c with
  | false => rfl
  | true => simp [isBlank_of_isLineEnd hl] at h

def blankCodes : List Nat :=
  [9, 10, 11, 12, 13, 28, 29, 30, 31, 32, 0x85, 0xa0, 0x1680, 0x2000, 0x2001, 0x2002, 0x2003,
    0x2004, 0x2005, 0x2006, 0x2007, 0x2008, 0x2009, 0x200a, 0x2028, 0x2029, 0x202f, 0x205f, 0x3000]

theorem toNat_mem_blankCodes (h : isBlank c = true) : c.toNat ∈ blankCodes := by
  simp only [isBlank, Bool.or_eq_true, Bool.and_eq_true, decide_eq_true_eq, beq_iff_eq] at h
  simp only [blankCodes, List.mem_cons, List.not_mem_nil]
  omega

theorem isBlank_of_isWord (h : isWord c = true) : isBlank c = false := by
  cases hb : isBlank c with
  | false => rfl
  | true =>
    have hn : ∀ n ∈ blankCodes, isWord (Char.ofNat n) = false := by decide +kernel
    have hc := hn c.toNat (toNat_mem_blankCodes hb)
    rw [Char.ofNat_toNat, h] at hc
    exact absurd hc (by decide)

end TapeMachine.Text
