import Scripting.Evaluation.Machine
import Scripting.Files.Lines

namespace Scripting
namespace Evaluation

/-!
Reading and writing.

Programs exchange text with files and with the console, which goes by the names
of two files that do not exist.
-/

open Data (Transfer Value)
open Files (FileError Tree)
open Program (Node)
open Source (Span)

/-- The name of the console as a target of writing. -/
def consoleOutput : String := "<stdout>"

/-- The name of the console as a target of reading. -/
def consoleInput : String := "<stdin>"

/-- The name of the file that is read or written. -/
def evalTarget (self : Evaluator) (frame : Frame) (transfer : Transfer) (node : Node) :
    Action String := do
  match ← self.eval node frame with
  | .text name => return name
  | other => raise frame node.span (.transferTarget transfer (← typeName other))

/-- The number of the line that is read or written; lines are counted from one. -/
def evalLine (self : Evaluator) (frame : Frame) : Option Node → Action (Option Nat)
  | none => return none
  | some node => do
      match ← self.eval node frame with
      | .int n =>
          if 1 ≤ n.toInt then return some n.toInt.toNat
          else raise frame node.span (.lineOutOfRange n.toInt)
      | other => raise frame node.span (.lineType (← typeName other))

/-- Interrupt because a file cannot be read or written. -/
def raiseFile {α : Type} (frame : Frame) (span : Span) (target : String) :
    FileError → Action α
  | .notFound => raise frame span (.fileNotFound target)
  | error => raise frame span (.system error.message)

/-- The files after a text is written. -/
def writtenFiles (files : Tree) (path text : String) (overwrite : Bool) :
    Option Nat → Except FileError Tree
  | some number => files.writeLine path text number overwrite
  | none => if overwrite then files.write path text else files.append path text

/-- Write a text to a file. -/
def writeFile (settings : Settings) (frame : Frame) (span : Span) (target text : String)
    (overwrite : Bool) (line : Option Nat) : Action Unit := fun machine =>
  match writtenFiles machine.files (settings.resolve target) text overwrite line with
  | .ok files => .ok () { machine with files := files }
  | .error error => raiseFile frame span target error machine

/-- Write a value to the console or a file, and give what was written. -/
def evalWrite (self : Evaluator) (settings : Settings) (frame : Frame) (span : Span)
    (node : Node) (overwrite : Bool) (target : Node) (line : Option Node) : Action Value := do
  let value ← self.eval node frame
  let text ← readHeap fun heap => heap.display value
  let target ← evalTarget self frame .write target
  let line ← evalLine self frame line
  if target = consoleOutput then
    printText frame span (text ++ "\n")
    return .text text
  else
    writeFile settings frame span target text overwrite line
    return .text text

/-- Read a file, or one line of it. -/
def readFile (settings : Settings) (frame : Frame) (span : Span) (target : String)
    (line : Option Nat) : Action String := do
  match (← get).files.readText (settings.resolve target), line with
  | .error error, _ => raiseFile frame span target error
  | .ok content, none => return content
  | .ok content, some number =>
      match Files.lineOf? content number with
      | some text => return text
      | none => raise frame span (.lineOutOfRange number)

/-- Give a text that has been read, and bind it if there is a name for it. -/
def keepText (frame : Frame) (name : Option String) (text : String) : Action Value := do
  match name with
  | some name =>
      bindName frame name (.text text)
      return .text text
  | none => return .text text

/-- Read a text from the console or a file, and bind it if asked to. -/
def evalRead (self : Evaluator) (settings : Settings) (frame : Frame) (span : Span)
    (target : Node) (name : Option String) (line : Option Node) : Action Value := do
  let target ← evalTarget self frame .read target
  let line ← evalLine self frame line
  let text ←
    if target = consoleInput then readLine frame span
    else readFile settings frame span target line
  keepText frame name text

end Evaluation
end Scripting
