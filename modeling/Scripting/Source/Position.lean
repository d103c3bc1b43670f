namespace Scripting
namespace Source

/-!
Places in a text.

A position counts characters from the start of its text and also knows the line
and the column it falls on.  All three count from zero; only reports to the user
count lines and columns from one.
-/

/-- A place between two characters of a text. -/
structure Position where
  index : Nat
  line : Nat
  column : Nat
  deriving DecidableEq, Repr

/-- The start of every text. -/
def Position.start : Position := ⟨0, 0, 0⟩

/-- The place after one more character; a line feed starts a new line. -/
def Position.step (position : Position) (c : Char) : Position :=
  if c = '\n' then ⟨position.index + 1, position.line + 1, 0⟩
  else ⟨position.index + 1, position.line, position.column + 1⟩

/-- The place after a stretch of text that begins here. -/
def Position.after (position : Position) (text : List Char) : Position :=
  text.foldl Position.step position

@[simp] theorem Position.after_nil (position : Position) :
    position.after [] = position := rfl

@[simp] theorem Position.after_cons (position : Position) (c : Char) (text : List Char) :
    position.after (c :: text) = (position.step c).after text := rfl

theorem Position.after_append (position : Position) (first second : List Char) :
    position.after (first ++ second) = (position.after first).after second :=
  List.foldl_append

@[simp] theorem Position.step_index (position : Position) (c : Char) :
    (position.step c).index = position.index + 1 := by
  unfold Position.step
  split <;> rfl

theorem Position.after_index (position : Position) (text : List Char) :
    (position.after text).index = position.index + text.length := by
  induction text generalizing position with
  | nil => rfl
  | cons c rest ih =>
      rw [Position.after_cons, ih, Position.step_index, List.length_cons]
      omega

/-- A stretch of text from its first character to just past its last one. -/
structure Span where
  start : Position
  stop : Position
  deriving DecidableEq, Repr

/-- The span from the start of one construct to the end of a later one. -/
def Span.through (first last : Span) : Span :=
  ⟨first.start, last.stop⟩

/-- A text with the name it is reported under. -/
structure Document where
  name : String
  text : String
  deriving DecidableEq, Repr

/-- A stretch of a particular text. -/
structure Place where
  document : Document
  span : Span
  deriving DecidableEq, Repr

/-- Where a place starts, as file name, line and column counted from one. -/
def Place.label (place : Place) : String :=
  let start := place.span.start
  s!"{place.document.name}:{start.line + 1}:{start.column + 1}"

end Source
end Scripting
