import TapeMachine.Console.Markup
import TapeMachine.Console.Wrapping

namespace TapeMachine.Console

namespace Styled

/-- The lines of a shown text. -/
def lines (shown : Styled) : List Line :=
  (Line.ofText shown.text).parts.flatMap fun line => (line.withoutTabs 0).wrapped

/-- Whether a text goes on one line as it is. -/
def isWhole (shown : Styled) : Bool :=
  '\t' ∉ shown.text && shown.lines.length = 1

/-- The spans to be painted. Of a whole text those are lost that begin where nothing is seen any
more, and of one that is cut into lines those on which nothing is seen. -/
def painted (shown : Styled) : List Span :=
  let seen := shown.lines.flatMap Line.seen
  if shown.isWhole then
    shown.spans.filter fun span => seen.length = shown.text.length || span.start < seen.length
  else
    shown.spans.filter fun span =>
      seen.any fun letter => span.start ≤ letter.place && letter.place < span.stop

end Styled

/-- Reads the style of a span. One that is unknown is passed over. -/
def Span.check (span : Span) : Except MarkupError Unit :=
  match Style.read span.style with
  | .error .missingNumber => .error (.style .missingNumber)
  | _ => .ok ()

/-- Paints a text with marks, where nobody looks. Its marks must be in order, and so must the styles
that they name. -/
def paint (text : String) : Except MarkupError Unit := do
  (← styled text).painted.forM Span.check

end TapeMachine.Console
