import Scripting.Files.Path

namespace Scripting
namespace Files

/-!
A tree of files.

A place in the tree is reached from the root or from the working directory, by
going up some directories and down by names.  Nothing is known to exist but what
is in the tree, the working directory and the directories above it.
-/

/-- A place in the tree: the names on the way down from the root. -/
structure Location where
  names : List String
  deriving DecidableEq, Repr

def Location.root : Location := ⟨[]⟩

/-- The directory that a place is in; the root is as high as one can get. -/
def Location.up (location : Location) : Location :=
  ⟨location.names.dropLast⟩

/-- The place with the given name in a directory. -/
def Location.down (location : Location) (name : String) : Location :=
  ⟨location.names ++ [name]⟩

/-- The place with the given names below a directory. -/
def Location.below (location : Location) (names : List String) : Location :=
  ⟨location.names ++ names⟩

/-- The path of a place from the root. -/
def Location.path (location : Location) : String :=
  "/" ++ String.intercalate "/" location.names

/-- Whether a place is a directory or lies below it. -/
def Location.isWithin (location directory : Location) : Bool :=
  directory.names.isPrefixOf location.names

/-- Whether a place lies below another one. -/
def Location.isBelow (location directory : Location) : Bool :=
  location.isWithin directory && directory.names.length < location.names.length

/-- Why a file cannot be read or written. -/
inductive FileError where
  | notFound
  | notDirectory
  | isDirectory
  | notText
  | badName
  | nameTooLong
  deriving DecidableEq, Repr

def FileError.message : FileError → String
  | .notFound => "No such file or directory (os error 2)"
  | .notDirectory => "Not a directory (os error 20)"
  | .isDirectory => "Is a directory (os error 21)"
  | .notText => "stream did not contain valid UTF-8"
  | .badName => "file name contained an unexpected NUL byte"
  | .nameTooLong => "File name too long (os error 36)"

/-- Files by place, and directories that exist even if nothing is in them. -/
structure Tree where
  files : List (Location × ByteArray) := []
  directories : List Location := []
  /-- The directory that relative paths start from. -/
  here : Location := .root

/-- What is found at a place. -/
inductive Entry where
  | file (content : ByteArray)
  | directory
  | missing

namespace Tree

/-- A file, or a directory: one that is known, or one that something is in. -/
def entry (tree : Tree) (location : Location) : Entry :=
  match tree.files.lookup location with
  | some content => .file content
  | none =>
      if tree.files.any (fun file => file.1.isBelow location) ||
          (tree.here :: tree.directories).any (fun directory => directory.isWithin location) then
        .directory
      else .missing

/--
Follow the pieces of a path; every piece has to start from a directory, which is
asked for it before it is known whether there can be such a name.
-/
def follow (tree : Tree) : Location → List (List Char) → Except FileError Location
  | location, [] => .ok location
  | location, piece :: rest =>
      match tree.entry location with
      | .missing => .error .notFound
      | .file _ => .error .notDirectory
      | .directory =>
          if staysInPlace piece then tree.follow location rest
          else if piece = ['.', '.'] then tree.follow location.up rest
          else if isLongName piece then .error .nameTooLong
          else tree.follow (location.down (String.ofList piece)) rest

/-- What is wrong with a path before any directory has been asked. -/
def rejected? (path : String) : Option FileError :=
  if path.toList.contains '\x00' then some .badName
  else if isLongPath path then some .nameTooLong
  else if path.isEmpty then some .notFound
  else none

/-- The directory that a path starts from. -/
def start (tree : Tree) (path : String) : Location :=
  if isAbsolute path then .root else tree.here

/-- The place that an existing file would have under a path. -/
def locate (tree : Tree) (path : String) : Except FileError Location :=
  match rejected? path with
  | some error => .error error
  | none => tree.follow (tree.start path) (pieces path.toList)

/-- The content of the file under a path. -/
def readBytes (tree : Tree) (path : String) : Except FileError ByteArray := do
  let location ← tree.locate path
  match tree.entry location with
  | .file content => .ok content
  | .directory => .error .isDirectory
  | .missing => .error .notFound

/-- The content of a text file. -/
def readText (tree : Tree) (path : String) : Except FileError String := do
  let content ← tree.readBytes path
  match String.fromUTF8? content with
  | some text => .ok text
  | none => .error .notText

/-- Whether there is a file under a path. -/
def isFile (tree : Tree) (path : String) : Bool :=
  match tree.readBytes path with
  | .ok _ => true
  | .error _ => false

/--
The place at which a file is written: its directory has to exist, and the path
must not name a directory, be it only by a separator at its end.
-/
def locateForWriting (tree : Tree) (path : String) : Except FileError Location := do
  match rejected? path with
  | some error => .error error
  | none =>
    let reversed := (pieces path.toList).reverse
    match reversed.dropWhile (· = []) with
    | [] => .error .isDirectory
    | last :: above =>
        let directory ← tree.follow (tree.start path) above.reverse
        match tree.entry directory with
        | .missing => .error .notFound
        | .file _ => .error .notDirectory
        | .directory =>
            if reversed.head? = some [] || last = ['.'] || last = ['.', '.'] then
              .error .isDirectory
            else if isLongName last then .error .nameTooLong
            else
              let location := directory.down (String.ofList last)
              match tree.entry location with
              | .directory => .error .isDirectory
              | _ => .ok location

/-- Put a file at a place, replacing what was there. -/
def put (tree : Tree) (location : Location) (content : ByteArray) : Tree :=
  { tree with
    files := (location, content) :: tree.files.filter fun file => file.1 ≠ location }

/-- Write a text as the whole content of the file under a path. -/
def write (tree : Tree) (path text : String) : Except FileError Tree := do
  let location ← tree.locateForWriting path
  return tree.put location text.toUTF8

/-- Write a text at the end of the file under a path, which is created if need be. -/
def append (tree : Tree) (path text : String) : Except FileError Tree := do
  let location ← tree.locateForWriting path
  let old := (tree.files.lookup location).getD ByteArray.empty
  return tree.put location (old ++ text.toUTF8)

/-- The place that names lead to from the working directory. -/
def locationOf (tree : Tree) (path : String) : Location :=
  tree.here.below ((pieces path.toList).map String.ofList)

/-- A tree with one more file below the working directory. -/
def addFile (tree : Tree) (path : String) (content : ByteArray) : Tree :=
  tree.put (tree.locationOf path) content

/-- A tree with one more directory below the working directory. -/
def addDirectory (tree : Tree) (path : String) : Tree :=
  { tree with directories := tree.locationOf path :: tree.directories }

/-- The files by their paths, in the order of the paths. -/
def listing (tree : Tree) : List (String × ByteArray) :=
  let named := tree.files.map fun file => (file.1.path, file.2)
  named.mergeSort fun left right => !(right.1 < left.1)

end Tree

end Files
end Scripting
