import TapeMachine.Proofs.Json.Printed
import TapeMachine.Record

namespace TapeMachine.Record

variable {record : Record} {records : List Record} {text : String}

/-- A line that stands for a record: its compact text, in visible characters only, which is read
back to the record unless that holds what a reader refuses. -/
structure OnLine (record : Record) (line : String) : Prop where
  compact : line = (Json.obj record).compact
  visible : ∀ c ∈ line.toList, Json.IsVisible c
  read : Json.Legible Json.maxDepth (.obj record) → Json.read line = .ok (.obj record)

/-- A text that holds records, each on a line of its own with a line break at its end. -/
inductive OnLines : List Record → String → Prop
  | nil : OnLines [] ""
  | cons {record : Record} {records : List Record} {line text : String} (h : OnLine record line)
      (rest : OnLines records text) : OnLines (record :: records) (line ++ "\n" ++ text)

def linesOf (records : List Record) : String :=
  String.join (records.map line)

theorem linesOf_cons (record : Record) (records : List Record) :
    linesOf (record :: records) = record.line ++ linesOf records := by
  simp [linesOf]

theorem linesOf_append (records more : List Record) :
    linesOf (records ++ more) = linesOf records ++ linesOf more := by
  simp [linesOf]

theorem onLine_compact (record : Record) : OnLine record (Json.obj record).compact :=
  ⟨rfl, Json.isVisible_compact _, Json.read_compact⟩

theorem onLines_linesOf (records : List Record) : OnLines records (linesOf records) := by
  induction records with
  | nil => exact .nil
  | cons record records ih =>
    rw [linesOf_cons]
    exact .cons (onLine_compact record) ih

theorem OnLines.eq_linesOf (h : OnLines records text) : text = linesOf records := by
  induction h with
  | nil => rfl
  | cons h _ ih =>
    rw [linesOf_cons, h.compact, ih]
    rfl

end TapeMachine.Record
