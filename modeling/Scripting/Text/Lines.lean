namespace Scripting
namespace Text

/-!
Lines of a text.

A file read or written by line numbers is a list of lines.  A line feed ends a
line, together with one carriage return before it; a last line need not be ended.
-/

/-- Split at every separator; a text without one is a single piece. -/
def splitAt (separator : Char) : List Char → List (List Char)
  | [] => [[]]
  | c :: rest =>
      if c = separator then [] :: splitAt separator rest
      else
        match splitAt separator rest with
        | [] => [[c]]
        | piece :: pieces => (c :: piece) :: pieces

/-- Remove one carriage return from the end of a line. -/
def dropReturn (line : List Char) : List Char :=
  if line.getLast? = some '\r' then line.dropLast else line

/-- Lines ended by a line feed lose one carriage return; an unended last line keeps it. -/
def endedLines : List (List Char) → List (List Char)
  | [] => []
  | [last] => if last.isEmpty then [] else [last]
  | line :: rest => dropReturn line :: endedLines rest

/-- The lines of a text, without their ends. -/
def lines (text : String) : List String :=
  (endedLines (splitAt '\n' text.toList)).map String.ofList

/-- The text whose lines are the given ones, each ended by a line feed. -/
def joinLines (lines : List String) : String :=
  String.intercalate "\n" lines ++ "\n"

/-- Remove the characters at the end that satisfy a condition. -/
def dropEndWhile (condition : Char → Bool) (text : List Char) : List Char :=
  (text.reverse.dropWhile condition).reverse

end Text
end Scripting
