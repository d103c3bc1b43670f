import Scripting.Data.Prelude
import Scripting.Evaluation.Machine
import Scripting.Grammar.Reading

namespace Scripting
namespace Evaluation

/-!
Modules.

A module is a file that is looked for first in the working directory and then in
the library directory; the modules of the language itself come last.  It runs
each time it is imported, in a scope that sees only the prelude, and what it
exports is all that can be reached of it.
-/

open Data (Bindings TableId Value)
open Grammar (SourceError)
open Program (Node)
open Source (Document Span)

/-- The table of the names that every program starts with, which is the first table made. -/
def preludeTable : TableId := ⟨0⟩

/-- The files a module may be in, in the order in which they are tried. -/
def moduleFiles (settings : Settings) (name : String) : List String :=
  let file := name ++ ".ql"
  (settings.workingDirectory :: settings.libraryDirectory.toList).map (Files.join · file)

/-- The file a module is in. -/
def findModule? (settings : Settings) (name : String) : Action (Option String) := fun machine =>
  .ok ((moduleFiles settings name).find? machine.files.isFile) machine

/-- The frame in which a module runs. -/
def openModule (frame : Frame) (span : Span) (name : String) (document : Document) :
    Action (Frame × Data.ExportsId) := do
  let scope ← create fun heap => heap.newScope .empty [preludeTable]
  let exports ← create fun heap => heap.newExports
  let inside : Frame :=
    { trail := frame.enter s!"<module {name}>" span
      scope := scope
      exports := some exports
      document := document }
  return (inside, exports)

/-- Evaluate a module in a frame of its own and give what it exports. -/
def moduleBody (self : Evaluator) (frame : Frame) (span : Span) (name : String)
    (document : Document) (program : Node) : Action (Bindings Value) := do
  let (inside, exports) ← openModule frame span name document
  let _ ← contain inside (self.eval program inside)
  readHeap fun heap => heap.exported exports

/-- Run a module as one more active call. -/
def runModule (self : Evaluator) (settings : Settings) (frame : Frame) (span : Span)
    (name : String) (document : Document) (program : Node) : Action (Bindings Value) :=
  withinCall settings frame span (moduleBody self frame span name document program)

/-- Interrupt because a file is not a program; the error is placed in that file. -/
def raiseUnreadable {α : Type} (frame : Frame) (span : Span) (name : String)
    (document : Document) (error : SourceError) : Action α :=
  throw (.error
    { fault := .loadFailure name error.headline
      place := ⟨document, error.span⟩
      trail := frame.enter s!"<module {name}>" span })

/-- Load a module from a file. -/
def loadModule (self : Evaluator) (settings : Settings) (frame : Frame) (span : Span)
    (name path : String) : Action (Bindings Value) := do
  match (← get).files.readText path with
  | .error error => raise frame span (.loadFailure name error.message)
  | .ok text =>
      match (Grammar.readProgram {} text).1 with
      | .error error => raiseUnreadable frame span name ⟨path, text⟩ error
      | .ok program => runModule self settings frame span name ⟨path, text⟩ program

/-- What a module of the language itself exports. -/
def loadNative (frame : Frame) (span : Span) (name : String) : Action (Bindings Value) :=
  fun machine =>
    match machine.heap.newNative? name with
    | some (exports, heap) => .ok exports { machine with heap := heap }
    | none => raise frame span (.notAModule name) machine

/-- Import a module and bind it under its own or another name. -/
def evalImport (self : Evaluator) (settings : Settings) (frame : Frame) (span : Span)
    (name : String) (rename : Option String) : Action Value := do
  let exports ←
    match ← findModule? settings name with
    | some path => loadModule self settings frame span name path
    | none => loadNative frame span name
  let id ← create fun heap => heap.newLibrary ⟨name, exports⟩
  bindName frame (rename.getD name) (.library id)
  return .library id

/-- Export a value; only a program and a module keep what is exported. -/
def evalExport (self : Evaluator) (frame : Frame) (node : Node) (name : String) :
    Action Value := do
  let value ← self.eval node frame
  match frame.exports with
  | some exports =>
      changeHeap fun heap => heap.addExport exports name value
      return value
  | none => return value

end Evaluation
end Scripting
