import TapeMachine.Proofs.Source.Drafts
import TapeMachine.Proofs.Source.Symbols

namespace TapeMachine.Source

open Text

variable {opened : Option Char} {b : Bool} {line old new text gap tail : List Char}

theorem ne_hash_of_isBlank {c : Char} (h : isBlank c = true) : c ≠ '#' := by
  rintro rfl
  exact absurd h (by decide)

theorem stripComment_of_blank (opened : Option Char) (b : Bool) (h : ∀ c ∈ gap, isBlank c = true) :
    stripComment opened b gap = gap :=
  stripComment_of_not_mem fun hm => ne_hash_of_isBlank (h '#' hm) rfl

theorem endsBlank_of_blank (h : ∀ c ∈ gap, isBlank c = true) (hb : b = true ∨ gap ≠ []) :
    endsBlank b gap = true := by
  cases gap using List.reverseRecOn with
  | nil => simpa using hb
  | append_singleton gap c => simpa using h c (by simp)

/-- After blanks a comment may open, whatever came before them. -/
theorem stripComment_blank_append (h : ∀ c ∈ gap, isBlank c = true) (hb : b = true ∨ gap ≠ []) :
    stripComment none b (gap ++ text) = gap ++ stripComment none true text := by
  have ho : openAfter none gap = none :=
    openAfter_of_no_quote fun c hc => isQuote_of_isBlank (h c hc)
  rw [stripComment_append (stripComment_of_blank none b h), ho, endsBlank_of_blank h hb]

/-- What follows a comment belongs to it. -/
theorem stripComment_append_of_ne (h : stripComment opened b text ≠ text) (tail : List Char) :
    stripComment opened b (text ++ tail) = stripComment opened b text := by
  induction text generalizing opened b with
  | nil => exact absurd rfl h
  | cons c text ih =>
    rw [List.cons_append, stripComment, stripComment]
    rw [stripComment] at h
    split
    next => rfl
    next hc =>
      rw [if_neg hc] at h
      rw [ih fun he => h (by rw [he])]

theorem content_blank_append (h : ∀ c ∈ gap, isBlank c = true) :
    Draft.content (gap ++ text) = Draft.content text := by
  rw [Draft.content, withoutComment, stripComment_blank_append h (.inl rfl), trim_blank_append h]
  rfl

/-- A tail that leaves nothing but blanks once its comment is dropped does not count. -/
theorem content_append
    (h : withoutComment line = line →
      ∀ c ∈ stripComment (openAfter none line) (endsBlank true line) tail, isBlank c = true) :
    Draft.content (line ++ tail) = Draft.content line := by
  by_cases hl : withoutComment line = line
  · rw [Draft.content, Draft.content, hl, withoutComment, stripComment_append hl,
      trim_append_blank (h hl)]
  · rw [Draft.content, withoutComment, stripComment_append_of_ne hl]
    rfl

/-- A line without characters but blanks, or with a comment as the first thing on it. -/
def Idle (line : List Char) : Prop :=
  trimLeft line = [] ∨ (trimLeft line).head? = some '#'

instance : DecidablePred Idle := fun line =>
  inferInstanceAs (Decidable (trimLeft line = [] ∨ (trimLeft line).head? = some '#'))

theorem content_idle (h : Idle line) : Draft.content line = [] := by
  have hb : ∀ c ∈ line.takeWhile isBlank, isBlank c = true := fun c hc => List.mem_takeWhile_imp hc
  have hs : line.takeWhile isBlank ++ trimLeft line = line := List.takeWhile_append_dropWhile
  rw [← hs, content_blank_append hb]
  rcases h with hn | hc
  · rw [hn]
    rfl
  · obtain ⟨remark, hr⟩ := List.head?_eq_some_iff.mp hc
    rw [hr]
    rfl

/-- A line and what it becomes when the blanks before or after it are exchanged for others, or when
a comment is put behind it. No comment is put inside a quote. -/
inductive Retouched : List Char → List Char → Prop
  | lead {gap other : List Char} (gap_blank : ∀ c ∈ gap, isBlank c = true)
      (other_blank : ∀ c ∈ other, isBlank c = true) (text : List Char) :
      Retouched (gap ++ text) (other ++ text)
  | trail {gap other : List Char} (gap_blank : ∀ c ∈ gap, isBlank c = true)
      (other_blank : ∀ c ∈ other, isBlank c = true) (text : List Char) :
      Retouched (text ++ gap) (text ++ other)
  | comment {line gap : List Char}
      (closed : openAfter none line = none ∨ withoutComment line ≠ line) (gap_ne : gap ≠ [])
      (gap_blank : ∀ c ∈ gap, isBlank c = true) (remark : List Char) :
      Retouched line (line ++ (gap ++ '#' :: remark))

theorem content_append_blank (h : ∀ c ∈ gap, isBlank c = true) :
    Draft.content (text ++ gap) = Draft.content text :=
  content_append fun _ => by rwa [stripComment_of_blank _ _ h]

/-- The content of a line depends neither on the blanks around it nor on its comment. -/
theorem content_retouched (h : Retouched old new) : Draft.content new = Draft.content old := by
  cases h with
  | lead hg ho text => rw [content_blank_append hg, content_blank_append ho]
  | trail hg ho text => rw [content_append_blank hg, content_append_blank ho]
  | comment closed gap_ne hg remark =>
    refine content_append fun hl => ?_
    have ho : openAfter none old = none := closed.resolve_right fun hn => hn hl
    have hr : stripComment none true ('#' :: remark) = [] := rfl
    rwa [ho, stripComment_blank_append hg (.inr gap_ne), hr, List.append_nil]

end TapeMachine.Source
