import Scripting.Data.Fault
import Scripting.Data.Heap
import Scripting.Source.Report
import Scripting.Text.Collapse

namespace Scripting
namespace Evaluation

/-!
Frames and what they tell about errors.

Every call, class body and module runs in a frame of its own.  The trail of a
frame names it and leads back to the program through the places at which each
frame was entered; it is used for nothing but reports of errors.
-/

open Data (Fault FaultKind Scope ExportsId)
open Source (Document Place Position Span)

/-- The chain of frames from the current one back to the program. -/
inductive Trail where
  | root (name : String)
  /-- A frame entered from another one at a position of the text that one runs. -/
  | entered (name : String) (caller : Trail) (document : Document) (position : Position)

/-- The name of the frame a trail starts at. -/
def Trail.name : Trail → String
  | .root name => name
  | .entered name .. => name

/-- The number of frames on a trail. -/
def Trail.depth : Trail → Nat
  | .root _ => 1
  | .entered _ caller .. => caller.depth + 1

/-- A line of a traceback. -/
def tracebackLine (document : Document) (position : Position) (name : String) : String :=
  s!"  In file {document.name}, line {position.line + 1}, in {name}:"

/-- One line for each frame, the program first, down to a place in the last frame. -/
def Trail.lines : Trail → Document → Position → List String
  | .root name, document, position => [tracebackLine document position name]
  | .entered name caller entry entryPosition, document, position =>
      caller.lines entry entryPosition ++ [tracebackLine document position name]

/-- A traceback has one line for each frame. -/
theorem Trail.length_lines (trail : Trail) (document : Document) (position : Position) :
    (trail.lines document position).length = trail.depth := by
  induction trail generalizing document position with
  | root name => rfl
  | entered name caller entry entryPosition ih =>
      simp [Trail.lines, Trail.depth, ih]

/-- What code is evaluated in: its names, its exports, its text, and how it was reached. -/
structure Frame where
  trail : Trail
  scope : Scope
  /-- Where exports go; only a program and a module keep them. -/
  exports : Option ExportsId
  document : Document

/-- The frame of something that is entered from another frame at a span of its text. -/
def Frame.enter (frame : Frame) (name : String) (span : Span) : Trail :=
  .entered name frame.trail frame.document span.start

/-- A stretch of the text that a frame runs. -/
def Frame.place (frame : Frame) (span : Span) : Place :=
  ⟨frame.document, span⟩

/-- A fault with the place where it was found and the trail of its frame. -/
structure RuntimeError where
  fault : Fault
  place : Place
  trail : Trail

/-- The lines of the traceback before repeated ones are cut short. -/
def RuntimeError.tracebackLines (error : RuntimeError) : List String :=
  error.trail.lines error.place.document error.place.span.start

/-- The traceback, the excerpt of the text, and what happened. -/
def RuntimeError.report (error : RuntimeError) : String :=
  "Traceback (most recent call last):\n" ++
    String.join ((Text.collapse error.tracebackLines).map (· ++ "\n")) ++
    Source.excerpt error.place.document.text error.place.span ++
    Source.headline error.fault.kind.name error.fault.message

end Evaluation
end Scripting
