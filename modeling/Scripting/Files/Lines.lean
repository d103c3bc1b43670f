import Scripting.Files.Tree
import Scripting.Text.Lines

namespace Scripting
namespace Files

/-!
Files read and written by line numbers, which count from one.
-/

/--
Lines with a text put at a given place.  A shorter list is first filled up with
empty lines; an existing line is replaced or moved down as asked.
-/
def putLine (lines : List String) (text : String) (place : Nat) (replace : Bool) :
    List String :=
  let padded := lines ++ List.replicate (place - lines.length) ""
  if replace && place < padded.length then padded.set place text
  else padded.insertIdx place text

/-- Write one line of the file under a path; a missing file counts as empty. -/
def Tree.writeLine (tree : Tree) (path text : String) (number : Nat) (replace : Bool) :
    Except FileError Tree := do
  let content ←
    match tree.readText path with
    | .ok content => .ok content
    | .error .notFound => .ok ""
    | .error error => .error error
  tree.write path (Text.joinLines (putLine (Text.lines content) text (number - 1) replace))

/-- One line of a text. -/
def lineOf? (content : String) (number : Nat) : Option String :=
  (Text.lines content)[number - 1]?

end Files
end Scripting
