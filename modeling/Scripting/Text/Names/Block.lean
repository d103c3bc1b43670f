import Scripting.Text.Lines

namespace Scripting
namespace Text

/-!
Tables of names.

The names of characters come in blocks, one for a script or a kind of symbol.
Neighbours often have names that start alike, so a row of a block holds the start
that its names have in common once, and then what each of them goes on with.
-/

/--
Names of consecutive characters: the code point of the first one, what all the
names start with, and what each goes on with, divided by semicolons.
-/
structure NameRow where
  first : Nat
  start : String
  ends : String

namespace NameRow

/-- What the names of a row go on with after their common start. -/
def endings (row : NameRow) : List (List Char) :=
  splitAt ';' row.ends.toList

/-- The name of a code point. -/
def name? (row : NameRow) (code : Nat) : Option String :=
  if row.first ≤ code then
    row.endings[code - row.first]?.map fun ending => String.ofList (row.start.toList ++ ending)
  else none

/-- The code point with a name. -/
def code? (row : NameRow) (name : List Char) : Option Nat :=
  if row.start.toList.isPrefixOf name then
    (row.endings.findIdx? (· = name.drop row.start.toList.length)).map (row.first + ·)
  else none

/-- A name that a row gives a code point for is the name of that code point. -/
theorem name?_of_code? {row : NameRow} {name : List Char} {code : Nat}
    (found : row.code? name = some code) : row.name? code = some (String.ofList name) := by
  unfold code? at found
  split at found
  · rename_i starts
    obtain ⟨ending, joined⟩ := List.isPrefixOf_iff_prefix.mp starts
    obtain ⟨index, located, rfl⟩ := Option.map_eq_some_iff.mp found
    obtain ⟨inside, same, _⟩ := List.findIdx?_eq_some_iff_getElem.mp located
    subst joined
    have this : row.endings[index]? = some ending := by
      rw [List.getElem?_eq_getElem inside]
      simpa using same
    simp [name?, this]
  · exact absurd found (by simp)

end NameRow

/-- The names in a range of code points. -/
structure NameBlock where
  first : Nat
  last : Nat
  rows : List NameRow

namespace NameBlock

/-- The name of a code point; the rows of other blocks are not looked at. -/
def name? (block : NameBlock) (code : Nat) : Option String :=
  if block.first ≤ code ∧ code ≤ block.last then block.rows.findSome? (·.name? code) else none

/-- The code point with a name. -/
def code? (block : NameBlock) (name : List Char) : Option Nat :=
  block.rows.findSome? (·.code? name)

end NameBlock

end Text
end Scripting
