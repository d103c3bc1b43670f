import Scripting.Source.Position
import Scripting.Text.Lines

namespace Scripting
namespace Source

/-!
Excerpts: the lines of a text that a span touches, with the span underlined.

Each line is shown after a tabulator and followed by a line of carets under the
characters of the span.  A span that covers no character of a line still gets
one caret there, so that every excerpt points somewhere.
-/

/-- The lines a span touches and the columns it covers on the last of them. -/
structure Extent where
  lastLine : Nat
  /-- Where the span ends on its last line, or nothing when it covers the whole line. -/
  lastColumn : Option Nat

/-- A span that ends at the start of a line stops at the end of the line before. -/
def Span.extent (span : Span) : Extent :=
  if span.start.line < span.stop.line ∧ span.stop.column = 0 then
    ⟨span.stop.line - 1, none⟩
  else
    ⟨max span.stop.line span.start.line, some span.stop.column⟩

/-- The columns underlined on one line of the given width: a first one and a count. -/
def Span.underline (span : Span) (lineNumber width : Nat) : Nat × Nat :=
  let extent := span.extent
  let first := if lineNumber = span.start.line then span.start.column else 0
  let past :=
    if lineNumber = extent.lastLine then extent.lastColumn.getD width else width
  (first, max past (first + 1) - first)

/-- A line of the text and the carets under it. -/
def Span.showLine (span : Span) (lineNumber : Nat) (line : List Char) : List Char :=
  let shown := Text.dropEndWhile (· = '\r') line
  let (first, count) := span.underline lineNumber shown.length
  '\t' :: shown ++ '\n' :: '\t' :: List.replicate first ' ' ++ List.replicate count '^' ++ ['\n']

/-- The excerpt of a text for a span. -/
def excerpt (text : String) (span : Span) : String :=
  let touched := (Text.splitAt '\n' text.toList).zipIdx.filter fun numbered =>
    span.start.line ≤ numbered.2 && numbered.2 ≤ span.extent.lastLine
  String.ofList (touched.flatMap fun numbered => span.showLine numbered.2 numbered.1)

end Source
end Scripting
