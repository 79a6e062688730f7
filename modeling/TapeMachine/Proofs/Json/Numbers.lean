import TapeMachine.Json.Reader
import TapeMachine.Json.Writer

namespace TapeMachine.Json

open Text

variable {c : Char} {digits rest : List Char} {n : Nat} {negative : Bool}

/-- Whether no number goes on in a text. -/
def endsNumber : List Char → Bool
  | [] => true
  | c :: _ => !isAsciiDigit c && c != '.' && c != 'e' && c != 'E'

theorem isAsciiDigit_of_mem_toDigits (h : c ∈ Nat.toDigits 10 n) : isAsciiDigit c = true := by
  have hd := Nat.isDigit_of_mem_toDigits (by decide : 0 < 10) (by decide : 10 ≤ 10) h
  simp only [Char.isDigit, Bool.and_eq_true, decide_eq_true_eq] at hd
  exact Bool.and_eq_true_iff.mpr ⟨decide_eq_true hd.1, decide_eq_true hd.2⟩

theorem takeWhile_digits (hd : ∀ c ∈ digits, isAsciiDigit c = true)
    (hr : endsNumber rest = true) :
    (digits ++ rest).takeWhile isAsciiDigit = digits ∧
      (digits ++ rest).dropWhile isAsciiDigit = rest := by
  rw [List.takeWhile_append_of_pos hd, List.dropWhile_append_of_pos hd]
  cases rest with
  | nil => simp
  | cons c rest =>
    simp only [endsNumber, Bool.and_eq_true, Bool.not_eq_true'] at hr
    simp [hr.1.1.1]

/-- Only zero is written with a leading zero. -/
theorem toDigits_ne_zero_cons (h : 0 < n) (tail : List Char) :
    Nat.toDigits 10 n ≠ '0' :: tail := by
  induction n using Nat.strongRecOn generalizing tail with
  | ind n ih =>
    intro he
    by_cases hn : n < 10
    · have hall : ∀ d < 10, 0 < d → Nat.digitChar d ≠ '0' := by decide
      rw [Nat.toDigits_of_lt_base hn] at he
      exact hall n hn h (List.cons.inj he).1
    · rw [Nat.toDigits_of_base_le (by decide) (by omega)] at he
      obtain ⟨d, digits, hd⟩ := List.exists_cons_of_ne_nil
        (Nat.toDigits_ne_nil (n := n / 10) (b := 10))
      rw [hd, List.cons_append] at he
      exact ih (n / 10) (by omega) (by omega) digits (by rw [hd, (List.cons.inj he).1])

theorem readWhole?_toDigits (n : Nat) (hr : endsNumber rest = true) :
    readWhole? (Nat.toDigits 10 n ++ rest) = some (Nat.toDigits 10 n, rest) := by
  by_cases hn : n = 0
  · subst hn
    rfl
  · have hz : ∀ tail, Nat.toDigits 10 n ++ rest ≠ '0' :: tail := by
      intro tail he
      obtain ⟨d, digits, hd⟩ := List.exists_cons_of_ne_nil
        (Nat.toDigits_ne_nil (n := n) (b := 10))
      rw [hd, List.cons_append] at he
      exact toDigits_ne_zero_cons (Nat.pos_of_ne_zero hn) digits
        (by rw [hd, (List.cons.inj he).1])
    obtain ⟨ht, hd⟩ := takeWhile_digits (fun c => isAsciiDigit_of_mem_toDigits (n := n)) hr
    rw [readWhole?.eq_2 _ fun tail he => hz tail he, ht, hd]
    split
    next he => exact absurd he Nat.toDigits_ne_nil
    next he => rfl

theorem readFraction_of_ends (hr : endsNumber rest = true) : readFraction rest = ([], rest) := by
  refine readFraction.eq_2 rest fun tail he => ?_
  simp [he, endsNumber] at hr

theorem readExponent?_of_ends (hr : endsNumber rest = true) : readExponent? rest = none := by
  cases rest with
  | nil => rfl
  | cons c rest =>
    simp only [endsNumber, Bool.and_eq_true, bne_iff_ne] at hr
    unfold readExponent?
    simp [hr.1.2, hr.2]

theorem ofAsciiDigits_toDigits (n : Nat) : ofAsciiDigits (Nat.toDigits 10 n) = n := by
  have h := Nat.ofDigitChars_ten_toDigits (n := n)
  rw [Nat.ofDigitChars] at h
  rwa [ofAsciiDigits, ofDigits, List.foldl_map]

/-- The digits of an integer after its sign. -/
theorem toList_toString (n : Int) :
    (toString n).toList =
      (if n < 0 then ['-'] else []) ++ Nat.toDigits 10 n.natAbs := by
  cases n with
  | ofNat n =>
    change (Nat.repr n).toList = _
    rw [Nat.toList_repr, if_neg (by simp)]
    rfl
  | negSucc n =>
    change ("-" ++ Nat.repr (n + 1)).toList = _
    rw [String.toList_append, Nat.toList_repr, if_pos (Int.negSucc_lt_zero n)]
    rfl

theorem no_word_before (hc : isAsciiDigit c = true) :
    (words.find? fun word => word.1.toList.isPrefixOf (c :: rest)) = none ∧
      (words.find? fun word => word.1.toList.isPrefixOf ('-' :: c :: rest)) = none := by
  have hn : ∀ d ∈ ['n', 't', 'f', 'N', 'I', '-'], d ≠ c := by
    rintro d hd rfl
    have hletters : (['n', 't', 'f', 'N', 'I', '-'].all fun d => !isAsciiDigit d) = true := by
      decide
    have hd := List.all_eq_true.mp hletters d hd
    rw [hc] at hd
    exact absurd hd (by decide)
  simp only [List.mem_cons, List.not_mem_nil, or_false, forall_eq_or_imp, forall_eq] at hn
  simp [words, List.isPrefixOf, hn]

/-- Digits after which no number goes on are all of the number, whatever its sign. -/
theorem readNumeral?_toDigits (n : Nat) (hr : endsNumber rest = true) :
    readNumeral? (Nat.toDigits 10 n ++ rest) =
        some (⟨false, Nat.toDigits 10 n, [], none⟩, rest) ∧
      readNumeral? ('-' :: (Nat.toDigits 10 n ++ rest)) =
        some (⟨true, Nat.toDigits 10 n, [], none⟩, rest) := by
  have hm : ∀ tail, Nat.toDigits 10 n ++ rest ≠ '-' :: tail := by
    intro tail he
    obtain ⟨d, digits, hd⟩ := List.exists_cons_of_ne_nil
      (Nat.toDigits_ne_nil (n := n) (b := 10))
    have hdigit : isAsciiDigit d = true :=
      isAsciiDigit_of_mem_toDigits (n := n) (by rw [hd]; exact List.mem_cons_self)
    rw [hd, List.cons_append] at he
    rw [(List.cons.inj he).1] at hdigit
    exact absurd hdigit (by decide)
  constructor
  · rw [readNumeral?.eq_2 _ fun tail he => hm tail he, readWhole?_toDigits n hr]
    simp [readFraction_of_ends hr, readExponent?_of_ends hr]
  · rw [readNumeral?.eq_1, readWhole?_toDigits n hr]
    simp [readFraction_of_ends hr, readExponent?_of_ends hr]

theorem value_of_digits {n : Nat} (hn : (Nat.toDigits 10 n).length ≤ maxDigits)
    (negative : Bool) :
    Numeral.value ⟨negative, Nat.toDigits 10 n, [], none⟩ =
      .ok (int (if negative then -Int.ofNat n else Int.ofNat n)) := by
  rw [Numeral.value]
  simp [ofAsciiDigits_toDigits, Nat.not_lt.mpr hn]

/-- An integer of not too many digits is read back from its written form. -/
theorem readSimple_int {n : Int} (hn : (Nat.toDigits 10 n.natAbs).length ≤ maxDigits)
    (hr : endsNumber rest = true) :
    readSimple ((toString n).toList ++ rest) = .ok (int n, rest) := by
  obtain ⟨d, digits, hd⟩ := List.exists_cons_of_ne_nil
    (Nat.toDigits_ne_nil (n := n.natAbs) (b := 10))
  have hdigit : isAsciiDigit d = true :=
    isAsciiDigit_of_mem_toDigits (n := n.natAbs) (by rw [hd]; exact List.mem_cons_self)
  obtain ⟨hpos, hneg⟩ := @no_word_before d (digits ++ rest) hdigit
  rw [← List.cons_append, ← hd] at hpos hneg
  obtain ⟨hplain, hminus⟩ := readNumeral?_toDigits n.natAbs hr
  rw [toList_toString, readSimple]
  by_cases hz : n < 0
  · have hvalue := value_of_digits hn true
    rw [if_pos rfl, show -Int.ofNat n.natAbs = n by rw [Int.ofNat_eq_natCast]; omega] at hvalue
    simp [hz, hneg, hminus, hvalue, Except.map]
  · have hvalue := value_of_digits hn false
    rw [if_neg (by decide), show Int.ofNat n.natAbs = n by rw [Int.ofNat_eq_natCast]; omega]
      at hvalue
    simp [hz, hpos, hplain, hvalue, Except.map]

end TapeMachine.Json
