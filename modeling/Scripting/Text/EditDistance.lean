namespace Scripting
namespace Text

/-!
The edit distance of two texts.

The distance is the least number of characters to insert, delete or substitute.
It is computed row by row: entry `j` of the row for a part of the first text is
the distance from that part to the first `j` characters of the second.
-/

/--
The entries of the next row after its first one.  `left` is the entry just
written, `corner` the entry of the row above it, and `above` the entries of that
row still to be used, one for each character of the second text.
-/
def rowAfter (c : Char) (left corner : Nat) : List Nat → List Char → List Nat
  | up :: above, d :: rest =>
      let entry := min (min (up + 1) (left + 1)) (corner + if c = d then 0 else 1)
      entry :: rowAfter c entry up above rest
  | _, _ => []

/-- The row after one more character of the first text. -/
def nextRow (second : List Char) (row : List Nat) (c : Char) : List Nat :=
  match row with
  | [] => []
  | corner :: above => (corner + 1) :: rowAfter c (corner + 1) corner above second

/-- The least number of single-character edits that turn one text into the other. -/
def editDistance (first second : List Char) : Nat :=
  let start := List.range (second.length + 1)
  (first.foldl (nextRow second) start).getLastD 0

end Text
end Scripting
