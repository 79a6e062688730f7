import Mathlib.Data.List.TakeWhile
import TapeMachine.Console.Painting

namespace TapeMachine.Console

variable {text other tail plain : List Char} {slashes : Nat}

/-- Whether no bracket in a text opens a mark, whatever follows the text. -/
def isUnmarked : List Char → Bool
  | [] => true
  | '[' :: rest => rest.head?.any (fun c => !opensMark c) && isUnmarked rest
  | _ :: rest => isUnmarked rest

theorem isUnmarked_cons {c : Char} (h : c ≠ '[') (rest : List Char) :
    isUnmarked (c :: rest) = isUnmarked rest := by
  rw [isUnmarked]
  exact fun he => h he

theorem markText?_of_not_opens {c : Char} (h : opensMark c = false) (rest : List Char) :
    markText? (c :: rest) = none := by
  unfold markText?
  simp only [h, Bool.false_eq_true, if_false]
  split <;> rfl

/-- A text without marks is read as plain text. -/
theorem pieces_unmarked (h : isUnmarked text = true) (tail plain : List Char) (slashes : Nat) :
    ∃ plain' slashes', pieces plain slashes (text ++ tail) = pieces plain' slashes' tail := by
  induction text generalizing plain slashes with
  | nil => exact ⟨plain, slashes, rfl⟩
  | cons c rest ih =>
    by_cases hs : c = '\\'
    · subst hs
      rw [List.cons_append, pieces]
      exact ih (by rwa [isUnmarked_cons (by decide)] at h) plain (slashes + 1)
    · by_cases hc : c = '['
      · subst hc
        rw [isUnmarked, Bool.and_eq_true] at h
        cases rest with
        | nil => simp at h
        | cons d rest =>
          have hd : opensMark d = false := by simpa using h.1
          have hnone : markText? (d :: rest ++ tail) = none := markText?_of_not_opens hd _
          rw [List.cons_append, pieces]
          split
          next he => rw [hnone] at he; cases he
          next => exact ih h.2 _ 0
      · rw [List.cons_append, pieces]
        · exact ih (by rwa [isUnmarked_cons hc] at h) _ 0
        · exact hs
        · exact hc

theorem pieces_mark {inner rest : List Char} (h : markText? text = some (inner, rest))
    (plain : List Char) (slashes : Nat) :
    pieces plain slashes ('[' :: text) =
      .shown plain.reverse :: .shown (List.replicate (slashes / 2) '\\') ::
        (if slashes % 2 = 1 then .shown ('[' :: inner ++ [']']) else .mark (Mark.ofText inner)) ::
          pieces [] 0 rest := by
  rw [pieces]
  split
  next inner' rest' he =>
    cases h.symm.trans he
    rfl
  next he => rw [h] at he; cases he

/-- A word that names a color, and nothing else, in a mark. -/
structure IsColor (color : List Char) : Prop where
  opens : color.head?.any opensMark = true
  plain : ∀ c ∈ color, c ∉ ['[', ']', '=', '/']
  trim_eq : Text.trim color = color
  read_eq : Style.read color = .ok { color := some color }

/-- A name among those of the colors, and no word of another meaning, is one. -/
theorem isColor_of_name {name line : String} (hline : line ∈ colorLines)
    (hname : (Text.splitOn ' ' line.toList).contains name.toList = true)
    (hopens : name.toList.head?.any opensMark = true)
    (hplain : ∀ c ∈ name.toList, c ∉ ['[', ']', '=', '/'])
    (htrim : Text.trim name.toList = name.toList) (hnone : name.toList ≠ "none".toList)
    (hlowered : Text.lowered name.toList = name.toList)
    (hwords : Style.wordsOf name.toList = [name.toList])
    (hlook : Look.ofWord? name.toList = none) (hword : name ∉ ["on", "link", "not"]) :
    IsColor name.toList := by
  have hcolor : isColorName name.toList = true := by
    rw [isColorName, Bool.or_eq_true]
    exact .inr (List.any_eq_true.mpr ⟨line, hline, hname⟩)
  have hread : readColor name.toList = .ok name.toList := by
    rw [readColor, hlowered]
    simp only [hcolor]
    rfl
  have hextend : Style.extend {} [name.toList] =
      (readColor name.toList >>= fun color => .ok { color := some color }) := by
    simp only [List.mem_cons, List.not_mem_nil, or_false, not_or] at hword
    simp [Style.extend, hlowered, hlook, hword]
  refine ⟨hopens, hplain, htrim, ?_⟩
  rw [Style.read, htrim, if_neg hnone, hwords, hextend, hread]
  rfl

theorem isColor_red : IsColor "red".toList := by
  let line := "purple4 red red1 red3 rosy_brown royal_blue1 salmon1 sandy_brown sea_green1 sea_green2"
  have hline : line ∈ colorLines := by simp [colorLines, line]
  exact isColor_of_name hline (by decide +kernel) (by decide) (by simp) (by decide) (by decide)
    (by decide +kernel) (by decide +kernel) (by decide) (by decide)

theorem isColor_green : IsColor "green".toList := by
  let line := "gray89 gray93 green green1 green3 green4 green_yellow grey0 grey100 grey11 grey15 grey19"
  have hline : line ∈ colorLines := by simp [colorLines, line]
  exact isColor_of_name hline (by decide +kernel) (by decide) (by simp) (by decide) (by decide)
    (by decide +kernel) (by decide +kernel) (by decide) (by decide)

theorem markText?_of_inner {inner : List Char} (ho : inner.head?.any opensMark = true)
    (hp : ∀ c ∈ inner, c ≠ '[' ∧ c ≠ ']') (rest : List Char) :
    markText? (inner ++ ']' :: rest) = some (inner, rest) := by
  have htake : (inner ++ ']' :: rest).takeWhile (fun c => c ≠ '[' ∧ c ≠ ']') = inner := by
    rw [List.takeWhile_append_of_pos fun c hc => decide_eq_true (hp c hc)]
    simp
  cases inner with
  | nil => cases ho
  | cons c inner =>
    have hc : opensMark c = true := ho
    rw [List.cons_append] at htake ⊢
    unfold markText?
    simp only [htake]
    rw [← List.cons_append, List.drop_left]
    simp only [hc, if_true]

theorem ofText_of_notMem {inner : List Char} (h : '=' ∉ inner) :
    Mark.ofText inner = { name := inner } := by
  have htake : inner.takeWhile (· ≠ '=') = inner :=
    List.takeWhile_eq_self_iff.mpr fun c hc => decide_eq_true fun he => h (he ▸ hc)
  rw [Mark.ofText, htake]
  exact congrArg (Mark.mk inner) (List.drop_eq_nil_of_le (Nat.le_succ _))

namespace IsColor

variable {color : List Char} {opened : List OpenMark} {rest : List Piece} {shown : Styled}

/-- The mark that begins what is in the color. -/
def mark (color : List Char) : Mark := { name := color }

/-- The mark that ends it. -/
def endMark (color : List Char) : Mark := { name := '/' :: color }

theorem normalText_eq (h : IsColor color) : Style.normalText color = .ok color := by
  have htext : Style.text { color := some color } = color := by
    have hwords : Style.words { color := some color } = [color] := rfl
    rw [Style.text, hwords]
    simp
  rw [Style.normalText, h.read_eq]
  exact congrArg Except.ok htext

end IsColor

/-- Something is shown, and nothing but the color on any part of it. -/
def IsColored (color : List Char) (result : Except MarkupError Styled) : Prop :=
  ∃ shown, result = .ok shown ∧ ∀ span ∈ shown.spans, span.style = color

section Colored

variable {color : List Char} {opened : List OpenMark} {rest : List Piece}

theorem isColored_nil (h : ∀ other ∈ opened, other.mark = IsColor.mark color) (place : Nat) :
    IsColored color (styledFrom opened place []) := by
  refine ⟨_, rfl, fun span hs => ?_⟩
  obtain ⟨other, ho, rfl⟩ := List.mem_map.mp hs
  exact congrArg Mark.style (h other ho)

theorem isColored_shown (h : ∀ place, IsColored color (styledFrom opened place rest))
    (text : List Char) (place : Nat) :
    IsColored color (styledFrom opened place (.shown text :: rest)) := by
  obtain ⟨later, hl, hs⟩ := h (place + (withoutHidden (withEmojis (withoutSlashes text))).length)
  rw [styledFrom]
  simp only [hl]
  exact ⟨_, rfl, hs⟩

theorem isColored_opening (hc : IsColor color)
    (h : ∀ start place, IsColored color (styledFrom [⟨IsColor.mark color, start⟩] place rest))
    (place : Nat) : IsColored color (styledFrom [] place (.mark (IsColor.mark color) :: rest)) := by
  have hn : (IsColor.mark color).normal = .ok (IsColor.mark color) := by
    rw [Mark.normal, IsColor.mark, hc.normalText_eq]
    rfl
  have hslash : ∀ name, color ≠ '/' :: name := fun name he =>
    hc.plain '/' (he ▸ List.mem_cons_self) (by decide)
  have he : styledFrom [] place (.mark (IsColor.mark color) :: rest) =
      (IsColor.mark color).normal >>= fun mark => styledFrom [⟨mark, place⟩] place rest := by
    rw [styledFrom]
    split
    next name he => exact absurd he (hslash name)
    next => rfl
  rw [he, hn]
  exact h place place

theorem isColored_closing (hc : IsColor color)
    (h : ∀ place, IsColored color (styledFrom [] place rest)) (start place : Nat) :
    IsColored color
      (styledFrom [⟨IsColor.mark color, start⟩] place (.mark (IsColor.endMark color) :: rest)) := by
  have hclose : OpenMark.close color [⟨IsColor.mark color, start⟩] =
      .ok (⟨IsColor.mark color, start⟩, []) := by
    obtain ⟨c, tail, rfl⟩ : ∃ c tail, color = c :: tail := by
      cases color with
      | nil => exact absurd hc.opens (by decide)
      | cons c tail => exact ⟨c, tail, rfl⟩
    unfold OpenMark.close
    rw [hc.trim_eq]
    change ((Style.normalText (c :: tail)).mapError MarkupError.style >>= fun name => _) = _
    rw [hc.normalText_eq]
    simp [IsColor.mark, Mark.check, bind, Except.bind, Except.mapError, pure, Except.pure]
  have he : styledFrom [⟨IsColor.mark color, start⟩] place (.mark (IsColor.endMark color) :: rest) =
      (do
        let found ← OpenMark.close color [⟨IsColor.mark color, start⟩]
        let later ← styledFrom found.2 place rest
        return { later with spans := found.1.spanTo place :: later.spans }) := rfl
  obtain ⟨later, hl, hs⟩ := h place
  rw [he, hclose]
  refine ⟨⟨later.text, (⟨IsColor.mark color, start⟩ : OpenMark).spanTo place :: later.spans⟩, ?_, ?_⟩
  · change (styledFrom [] place rest >>= fun later => _) = _
    rw [hl]
    rfl
  · exact List.forall_mem_cons.mpr ⟨rfl, hs⟩

/-- A text in a color. -/
def inColor (color text : List Char) : List Char :=
  '[' :: (color ++ ']' :: (text ++ '[' :: '/' :: (color ++ [']'])))

variable {text : List Char} {line : String}

/-- A text without marks can stand in a color. Its last backslash may take the closing mark's
meaning, and then it has the color to the end. -/
theorem isColored_styled (hc : IsColor color) (h : isUnmarked text = true)
    (hl : line.toList = inColor color text) : IsColored color (styled line) := by
  have hplain : ∀ c ∈ color, c ≠ '[' ∧ c ≠ ']' ∧ c ≠ '=' := fun c hm => by
    have := hc.plain c hm
    simp_all
  have hopen := markText?_of_inner hc.opens (fun c hm => ⟨(hplain c hm).1, (hplain c hm).2.1⟩)
    (text ++ '[' :: '/' :: (color ++ [']']))
  have hclose : markText? ('/' :: (color ++ [']'])) = some ('/' :: color, []) :=
    @markText?_of_inner ('/' :: color) rfl (List.forall_mem_cons.mpr
      ⟨by decide, fun c hm => ⟨(hplain c hm).1, (hplain c hm).2.1⟩⟩) []
  have hmark : Mark.ofText color = IsColor.mark color :=
    ofText_of_notMem fun hm => (hplain '=' hm).2.2 rfl
  have hend : Mark.ofText ('/' :: color) = IsColor.endMark color :=
    ofText_of_notMem fun hm => (List.mem_cons.mp hm).elim (by decide) fun hm =>
      (hplain '=' hm).2.2 rfl
  obtain ⟨plain, slashes, hp⟩ := pieces_unmarked h ('[' :: '/' :: (color ++ [']'])) [] 0
  have hpieces : pieces [] 0 line.toList = .shown [] :: .shown [] :: .mark (IsColor.mark color) ::
      .shown plain.reverse :: .shown (List.replicate (slashes / 2) '\\') ::
        (if slashes % 2 = 1 then .shown ('[' :: ('/' :: color) ++ [']'])
          else .mark (IsColor.endMark color)) :: pieces [] 0 [] := by
    rw [hl, inColor, pieces_mark hopen, hp, pieces_mark hclose, hmark, hend]
    rfl
  rw [styled, hpieces, pieces]
  refine isColored_shown (isColored_shown (isColored_opening hc fun start => isColored_shown
    (isColored_shown ?_ _) _) _) _ 0
  by_cases hs : slashes % 2 = 1
  · rw [if_pos hs]
    exact isColored_shown (isColored_shown (isColored_nil (by simp)) _) _
  · rw [if_neg hs]
    exact isColored_closing hc (isColored_shown (isColored_nil (by simp)) _) start

theorem isOk_plain_inColor (hc : IsColor color) (h : isUnmarked text = true)
    (hl : line.toList = inColor color text) : (Console.plain line).isOk := by
  obtain ⟨shown, hs, -⟩ := isColored_styled hc h hl
  rw [Console.plain, hs]
  rfl

end Colored

end TapeMachine.Console
