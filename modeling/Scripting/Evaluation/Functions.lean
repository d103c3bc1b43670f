import Scripting.Evaluation.Machine

namespace Scripting
namespace Evaluation

/-!
Functions that programs define.

A function keeps the scope of its definition.  Each call runs in a new scope
inside that one, so that names are looked up where the function is written and
not where it is called.
-/

open Data (Fault Function FunctionId Scope Value)
open Program (Node)

/-- The name of a function that is defined without one. -/
def anonymous : String := "<anonymous>"

/-- Define a function, and bind it if it has a name. -/
def evalFunction (frame : Frame) (name : Option String) (required : List String)
    (optional : List (String × Node)) (body : Node) (arrow : Bool) : Action Value := do
  let id ← create fun heap => heap.newFunction
    { name := name.getD anonymous
      required := required
      optional := optional
      body := body
      arrow := arrow
      scope := frame.scope
      document := frame.document }
  match name with
  | some name =>
      bindName frame name (.function id)
      return .function id
  | none => return .function id

/-- Bind the required parameters of a function, and give the arguments that are left. -/
def bindRequired (site : CallSite) (frame : Frame) (function : Function) :
    List String → List (Option Value) → Action (List (Option Value))
  | [], rest => return rest
  | parameter :: parameters, some value :: rest => do
      bindName frame parameter value
      bindRequired site frame function parameters rest
  | parameter :: _, _ =>
      raise site.frame site.span (.missingArgument .defined function.name parameter)

/--
Bind the optional parameters of a function.  A default is evaluated in the frame
of the call, where the parameters before it are already bound.
-/
def bindOptional (self : Evaluator) (frame : Frame) :
    List (String × Node) → List (Option Value) → Action Unit
  | [], _ => return ()
  | (parameter, _) :: parameters, some value :: rest => do
      bindName frame parameter value
      bindOptional self frame parameters rest
  | (parameter, node) :: parameters, arguments => do
      let value ← self.eval node frame
      bindName frame parameter value
      bindOptional self frame parameters arguments.tail

/-- The value of a function's body: that of an arrow is the result, any other body has none. -/
def evalBody (self : Evaluator) (frame : Frame) (function : Function) : Action Value := do
  let value ← self.eval function.body frame
  return if function.arrow then value else .nothing

/-- The frame in which a function runs when it is called. -/
def calleeFrame (function : Function) (site : CallSite) (scope : Scope) : Frame where
  trail := site.frame.enter function.name site.span
  scope := scope
  exports := none
  document := function.document

/-- Run a function in a new scope inside the one it was defined in. -/
def enterFunction (self : Evaluator) (function : Function) (arguments : List (Option Value))
    (site : CallSite) : Action Value := do
  let scope ← openScope .empty function.scope
  let frame := calleeFrame function site scope
  let rest ← bindRequired site frame function function.required arguments
  bindOptional self frame function.optional rest
  catchReturn frame (evalBody self frame function)

/-- What is wrong with a number of arguments: there may be neither too few nor too many. -/
def arityFault? (function : Function) (count : Nat) : Option Fault :=
  let least := function.required.length
  let most := least + function.optional.length
  if count < least ∨ most < count then
    some (.arity .defined function.name least (some most) count)
  else none

/-- Call a function with its arguments. -/
def callFunction (self : Evaluator) (settings : Settings) (id : FunctionId)
    (arguments : List (Option Value)) (site : CallSite) : Action Value := do
  let function ← readHeap fun heap => heap.function id
  match arityFault? function arguments.length with
  | some fault => raise site.frame site.span fault
  | none =>
      withinCall settings site.frame site.span (enterFunction self function arguments site)

end Evaluation
end Scripting
