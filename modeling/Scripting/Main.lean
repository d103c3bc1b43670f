import Scripting.CommandLine.Invocation

namespace Scripting

/-!
The program as the system runs it.

The files below the current directory and the whole input are taken in before
anything runs.  Of other files nothing is known.  What has been printed is written
out at the end, and so are the files that have changed.
-/

open CommandLine (Environment Invocation)
open Files (Tree)

/-- Take in the files below a directory, down to a given depth. -/
def takeFiles : Nat → Array IO.FS.DirEntry → String → Tree → IO Tree
  | 0, _, _, tree => return tree
  | depth + 1, entries, above, tree =>
      entries.foldlM (fun tree entry => do
        let path := above ++ entry.fileName
        match (← entry.path.metadata).type with
        | .dir =>
            takeFiles depth (← entry.path.readDir) (path ++ "/") (tree.addDirectory path)
        | .file => return tree.addFile path (← IO.FS.readBinFile entry.path)
        | _ => return tree) tree

/-- Write out the files that are not as they were. -/
def writeFiles (before after : Tree) : IO Unit := do
  let known := before.listing
  for (path, content) in after.listing do
    match known.lookup path with
    | some old => if old != content then IO.FS.writeBinFile path content
    | none => IO.FS.writeBinFile path content

end Scripting

/-- Run the program with the arguments it is given. -/
def main (arguments : List String) : IO UInt32 := do
  let directory ← IO.currentDir
  let here : Scripting.Files.Location := ⟨directory.components.filter fun name => name ≠ ""⟩
  let files ← Scripting.takeFiles 16 (← directory.readDir) "" { here := here }
  let input ← (← IO.getStdin).readBinToEnd
  let environment : Scripting.CommandLine.Environment :=
    { libraryDirectory := ← IO.getEnv "QUILL_LIB_DIR"
      maxDepth := ← IO.getEnv "QUILL_MAX_DEPTH" }
  let (report, after) := Scripting.CommandLine.run
    { arguments := arguments, environment := environment, input := input.toList, files := files }
  Scripting.writeFiles files after
  let output ← IO.getStdout
  output.putStr report.output
  let errors ← IO.getStderr
  errors.putStr report.errors
  return report.code.toUInt32
