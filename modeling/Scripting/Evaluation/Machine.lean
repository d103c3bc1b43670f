import Scripting.Data.Arithmetic
import Scripting.Data.Comparison
import Scripting.Data.Suggestion
import Scripting.Evaluation.Console
import Scripting.Evaluation.Frame

namespace Scripting
namespace Evaluation

/-!
Actions: evaluation steps that change a machine and may be interrupted.

A machine is all that evaluation can change.  Errors and control signals travel
the same way, past everything that does not ask for them, and leave the machine
as it was when they arose.
-/

open Data (Fault Heap Jump Overgrowth Product Scope Value)
open Program (Node)
open Source (Place Span)

/-- Everything that evaluation reads and changes. -/
structure Machine where
  heap : Heap
  /-- How many calls are active. -/
  depth : Nat
  console : Console
  files : Files.Tree

/-- What stays the same while a program runs. -/
structure Settings where
  /-- The largest number of active calls. -/
  maxDepth : Nat := 1000
  /-- Where relative paths and modules are looked for. -/
  workingDirectory : String := "."
  /-- Where modules are looked for next. -/
  libraryDirectory : Option String := none

/-- A path in a program, as seen from outside. -/
def Settings.resolve (settings : Settings) (path : String) : String :=
  Files.join settings.workingDirectory path

/-- Control that leaves the normal order, with the place where it was asked for. -/
inductive Signal where
  | returned (value : Value) (place : Place)
  | jumped (jump : Jump) (label : Option String) (place : Place)
  | exited (code : Int32)

/-- Why the interpreter breaks off. -/
inductive Crash where
  /-- There is no memory for a list that is repeated. -/
  | overgrown (overgrowth : Overgrowth)
  /-- A function of the language reads an argument that it does not declare. -/
  | undeclared

/-- Why an action does not come to its end. -/
inductive Interrupt where
  | error (error : RuntimeError)
  | signal (signal : Signal)
  /-- The interpreter breaks off, and no program can answer that. -/
  | crashed (crash : Crash)
  /-- The evaluation was given too little fuel. -/
  | outOfFuel

/-- A step of evaluation. -/
abbrev Action (α : Type) := EStateM Interrupt Machine α

/-- A call of a function: the frame and the span of the call, and the spans of its arguments. -/
structure CallSite where
  frame : Frame
  span : Span
  arguments : List Span

/-- What evaluation is asked to do. -/
inductive Task where
  | evaluate (node : Node) (frame : Frame)
  /-- Call a value; an argument without a value asks for the default. -/
  | call (callee : Value) (arguments : List (Option Value)) (site : CallSite)

/-- Something that performs tasks. -/
abbrev Evaluator := Task → Action Value

/-- Evaluate a node. -/
def Evaluator.eval (self : Evaluator) (node : Node) (frame : Frame) : Action Value :=
  self (.evaluate node frame)

/-! ## Errors -/

/-- Interrupt with a fault at a span of the text that a frame runs. -/
def raise {α : Type} (frame : Frame) (span : Span) (fault : Fault) : Action α :=
  throw (.error ⟨fault, frame.place span, frame.trail⟩)

/-- The result of an operation that reads the heap, or the fault it ends in. -/
def check {α : Type} (frame : Frame) (span : Span) (operation : Heap → Except Fault α) :
    Action α := fun machine =>
  match operation machine.heap with
  | .ok value => .ok value machine
  | .error fault => raise frame span fault machine

/-! ## Heap -/

/-- Something read off the heap. -/
def readHeap {α : Type} (look : Heap → α) : Action α := fun machine =>
  .ok (look machine.heap) machine

/-- Change the heap. -/
def changeHeap (change : Heap → Heap) : Action Unit := fun machine =>
  .ok () { machine with heap := change machine.heap }

/-- Create something on the heap. -/
def create {α : Type} (make : Heap → α × Heap) : Action α := fun machine =>
  let (made, heap) := make machine.heap
  .ok made { machine with heap := heap }

/-- A new list with the given elements. -/
def newList (items : List Value) : Action Value := do
  let id ← create fun heap => heap.newList items
  return .list id

/-- The value of an operator's result, with a new list where there is to be one. -/
def realize : Product → Action Value
  | .value value => return value
  | .list items => newList items
  | .overgrown overgrowth => throw (.crashed (.overgrown overgrowth))

/-- The type of a value by name. -/
def typeName (value : Value) : Action String :=
  readHeap fun heap => heap.typeName value

/-- Whether a value counts as true. -/
def isTruthy (value : Value) : Action Bool :=
  readHeap fun heap => heap.isTruthy value

/-! ## Names -/

/-- Bind a name in the innermost table of a frame. -/
def bindName (frame : Frame) (name : String) (value : Value) : Action Unit :=
  changeHeap fun heap => heap.bind frame.scope.inner name value

/-- Interrupt because a name is not defined, with a suggestion of what may be meant. -/
def raiseUndefined {α : Type} (frame : Frame) (span : Span) (name : String) : Action α := do
  let suggestion ← readHeap fun heap => heap.suggest? frame.scope name
  raise frame span (.notDefined name suggestion)

/-- The value of a name as seen from a frame. -/
def lookUp (frame : Frame) (span : Span) (name : String) : Action Value := do
  match ← readHeap fun heap => heap.lookup? frame.scope name with
  | some value => return value
  | none => raiseUndefined frame span name

/-- A scope of its own inside the scope of a frame. -/
def openScope (bindings : Data.Bindings Value) (enclosing : Scope) : Action Scope :=
  create fun heap => heap.newScope bindings enclosing.tables

/-! ## Console -/

/-- Print a text. -/
def printText (frame : Frame) (span : Span) (text : String) : Action Unit := fun machine =>
  match machine.console.write? text with
  | some console => .ok () { machine with console := console }
  | none => raise frame span (.system outputClosed) machine

/-- Read a line of the input. -/
def readLine (frame : Frame) (span : Span) : Action String := fun machine =>
  let (result, console) := machine.console.readLine
  let machine := { machine with console := console }
  match result with
  | .ok line => .ok line machine
  | .error error => raise frame span (.system error.message) machine

/-! ## Calls -/

/--
Run an action as one more active call.  The call is over however the action ends;
at the limit it does not begin.
-/
def withinCall {α : Type} (settings : Settings) (frame : Frame) (span : Span)
    (action : Action α) : Action α := fun machine =>
  if settings.maxDepth ≤ machine.depth then raise frame span .recursionLimit machine
  else
    match action { machine with depth := machine.depth + 1 } with
    | .ok value after => .ok value { after with depth := after.depth - 1 }
    | .error interrupt after => .error interrupt { after with depth := after.depth - 1 }

/-! ## Signals -/

/-- What is wrong with a jump that no loop answers. -/
def strayJump (jump : Jump) : Option String → Fault
  | none => .jumpOutside jump
  | some _ => .labelUnmatched jump

/-- The error of a signal that nothing asks for in a frame; an exit stays what it is. -/
def Signal.unclaimed (signal : Signal) (frame : Frame) : Interrupt :=
  match signal with
  | .returned _ place => .error ⟨.returnOutside, place, frame.trail⟩
  | .jumped jump label place => .error ⟨strayJump jump label, place, frame.trail⟩
  | .exited code => .signal (.exited code)

/-- Run an action that no signal except an exit may leave. -/
def contain {α : Type} (frame : Frame) (action : Action α) : Action α := fun machine =>
  match action machine with
  | .ok value after => .ok value after
  | .error (.signal signal) after => .error (signal.unclaimed frame) after
  | .error interrupt after => .error interrupt after

/-- Run the body of a function: a return is its result, and other jumps may not leave it. -/
def catchReturn (frame : Frame) (action : Action Value) : Action Value := fun machine =>
  match action machine with
  | .ok value after => .ok value after
  | .error (.signal (.returned value _)) after => .ok value after
  | .error (.signal signal) after => .error (signal.unclaimed frame) after
  | .error interrupt after => .error interrupt after

end Evaluation
end Scripting
