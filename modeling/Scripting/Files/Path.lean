import Scripting.Text.Lines

namespace Scripting
namespace Files

/-!
Paths as they are written in programs and on the command line.
-/

/-- Whether a path starts at the root of the file system. -/
def isAbsolute (path : String) : Bool :=
  path.toList.head? = some '/'

/--
A path seen from a directory.  An absolute path stands for itself; otherwise one
separator divides the two, unless the directory is empty or ends with one.
-/
def join (directory path : String) : String :=
  if isAbsolute path || directory.isEmpty then path
  else if directory.toList.getLast? = some '/' then directory ++ path
  else directory ++ "/" ++ path

/-- The pieces of a path between its separators. -/
def pieces (path : List Char) : List (List Char) :=
  Text.splitAt '/' path

/-- Whether a piece leads nowhere when it stands inside a path. -/
def staysInPlace (piece : List Char) : Bool :=
  piece = [] || piece = ['.']

/-- The most bytes that a name can have. -/
def nameLimit : Nat := 255

/-- Whether a piece is too long for a name. -/
def isLongName (piece : List Char) : Bool :=
  nameLimit < (String.ofList piece).utf8ByteSize

/-- The most bytes that a path can have. -/
def pathLimit : Nat := 4095

/-- Whether a path is too long to be looked at. -/
def isLongPath (path : String) : Bool :=
  pathLimit < path.utf8ByteSize

/-- The directory that a path names its last piece in; the root is in none. -/
def parent (path : String) : String :=
  let reversed := (pieces path.toList).reverse.dropWhile staysInPlace
  match reversed with
  | [] => ""
  | _ :: above =>
      let first := above.getLast?
      let kept := above.dropLast.dropWhile staysInPlace ++ first.toList
      if kept = [[]] then "/" else String.intercalate "/" (kept.reverse.map String.ofList)

end Files
end Scripting
