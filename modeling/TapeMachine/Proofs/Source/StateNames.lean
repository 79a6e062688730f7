import TapeMachine.Proofs.Source.Directives
import TapeMachine.Proofs.Source.Spacing

namespace TapeMachine.Source

open Text

variable {name : List Char}

/-- A name that some line opens a block of rules for. -/
structure StateName (name : List Char) : Prop where
  ne_nil : name ≠ []
  trimmed : trim name = name
  no_brace : '{' ∉ name
  uncommented : withoutComment name = name
  no_lead : ∀ lead ∈ leads, ¬lead ++ [':'] <+: name
  one_line : ∀ c ∈ name, isLineEnd c = false

/-- Names that mean something else where they stand before a colon. -/
def reserved : List (List Char) :=
  "table".toList :: leads

def headerLine (name : List Char) : List Char :=
  ' ' :: ' ' :: (name ++ [':'])

theorem content_headerLine (h : StateName name) :
    Draft.content (headerLine name) = name ++ [':'] := by
  have he : headerLine name = [' ', ' '] ++ (name ++ [':']) := rfl
  have hs : withoutComment (name ++ [':']) = name ++ [':'] := by
    rw [withoutComment, stripComment_append h.uncommented, stripComment_of_not_mem (by decide)]
  have ht : trim (name ++ [':']) = name ++ [':'] := by
    rw [trim_append_cons name [] (by decide), trimLeft_eq_self (trim_eq_self_iff.mp h.trimmed).1]
    rfl
  rw [he, content_blank_append (List.all_eq_true.mp (by decide)), Draft.content, hs, ht]

theorem prefix_concat_colon {lead : List Char} :
    lead ++ [':'] <+: name ++ [':'] ↔ name = lead ∨ lead ++ [':'] <+: name := by
  rw [List.prefix_concat_iff]
  simp [eq_comm]

theorem read_header (h : StateName name) (hr : name ∉ reserved) :
    Line.read (Draft.content (headerLine name)) = .header name := by
  rw [content_headerLine h]
  have hl : ∀ lead ∈ leads, ¬lead ++ [':'] <+: name ++ [':'] := by
    intro lead hm hp
    rcases prefix_concat_colon.mp hp with rfl | hp
    · exact hr (List.mem_cons_of_mem _ hm)
    · exact h.no_lead lead hm hp
  have ht : name ++ [':'] ≠ "table:".toList := by
    intro he
    have hc : name ++ [':'] = "table".toList ++ [':'] := he
    have hn : name = "table".toList := List.append_cancel_right hc
    exact hr (by simp [reserved, hn])
  have hb : '{' ∉ name ++ [':'] := by simp [h.no_brace]
  rw [read_of_no_lead hl, if_neg ht, Line.readOther, if_pos ⟨by simp, hb⟩, List.dropLast_concat,
    h.trimmed]
  cases hn : name with
  | nil => exact absurd hn h.ne_nil
  | cons => rfl

/-- A reserved name opens no block. -/
theorem read_header_reserved (h : StateName name) (hr : name ∈ reserved) :
    Line.read (Draft.content (headerLine name)) = .table ∨
      ∃ reason, Line.read (Draft.content (headerLine name)) = .faulty reason := by
  rw [content_headerLine h]
  simp only [reserved, leads, List.mem_cons, List.not_mem_nil, or_false] at hr
  rcases hr with rfl | rfl | rfl | rfl
  · exact .inl rfl
  · exact .inr ⟨.expectedQuoted "input:", rfl⟩
  · exact .inr ⟨.expectedQuoted "blank:", rfl⟩
  · exact .inr ⟨.missingStartState, rfl⟩

end TapeMachine.Source
