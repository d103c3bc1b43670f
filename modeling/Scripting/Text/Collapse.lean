namespace Scripting
namespace Text

/-!
Repeated lines shown once with a count.

A traceback through deep recursion repeats the same line many times.  Up to five
equal lines in a row are shown as they are; of a longer run the first five are
shown, followed by a line that says how many more there were.
-/

/-- Maximal runs of equal lines with their lengths, in order. -/
def runsOf : List String → List (String × Nat)
  | [] => []
  | line :: rest =>
      match runsOf rest with
      | [] => [(line, 1)]
      | (next, count) :: others =>
          if line = next then (next, count + 1) :: others
          else (line, 1) :: (next, count) :: others

/-- How many equal lines in a row are shown. -/
def shownRepetitions : Nat := 5

/-- The line that stands for the rest of a run. -/
def repetitionMarker (count : Nat) : String :=
  s!"  (repeated {count} more times)"

/-- The lines shown for a run. -/
def showRun (run : String × Nat) : List String :=
  List.replicate (min run.2 shownRepetitions) run.1 ++
    if shownRepetitions < run.2 then [repetitionMarker (run.2 - shownRepetitions)] else []

/-- Lines with long runs of equal ones cut short. -/
def collapse (lines : List String) : List String :=
  (runsOf lines).flatMap showRun

end Text
end Scripting
