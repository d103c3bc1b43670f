import Scripting.Data.Attributes
import Scripting.Evaluation.Machine

namespace Scripting
namespace Evaluation

/-!
Classes and their instances.

The body of a class runs once, in a frame of its own; what it binds are the
members of the class.  Calling a class makes an object and calls its initializer,
if it has one.
-/

open Data (ClassId ObjectId Scope Value)
open Program (Node)
open Source (Span)

/-- The member that is called with the arguments of a new object. -/
def initializer : String := "__init__"

/-- The class that a class extends. -/
def evalParent (self : Evaluator) (frame : Frame) (name : String) :
    Option Node → Action (Option ClassId)
  | none => return none
  | some node => do
      match ← self.eval node frame with
      | .constructor id => return some id
      | other => raise frame node.span (.cannotInherit name (← typeName other))

/-- Run the body of a class in a scope of its own, and give the scope. -/
def runClassBody (self : Evaluator) (frame : Frame) (span : Span) (name : String)
    (body : Node) : Action Scope := do
  let scope ← openScope .empty frame.scope
  let inside : Frame :=
    { trail := frame.enter s!"<class {name}>" span
      scope := scope
      exports := none
      document := frame.document }
  let _ ← contain inside (self.eval body inside)
  return scope

/-- Define a class and bind it. -/
def evalClass (self : Evaluator) (frame : Frame) (span : Span) (name : String)
    (parent : Option Node) (body : Node) : Action Value := do
  let parent ← evalParent self frame name parent
  let scope ← runClassBody self frame span name body
  let id ← create fun heap =>
    heap.newClass (heap.extendClass name (heap.table scope.inner) parent)
  bindName frame name (.constructor id)
  return .constructor id

/-- A new object of a class, with the attributes that its objects start with. -/
def newInstance (id : ClassId) : Action ObjectId :=
  create fun heap => heap.newObject ⟨id, heap.instanceAttributes (heap.constructor id)⟩

/-- Make an object; a class without an initializer takes no arguments. -/
def instantiate (self : Evaluator) (id : ClassId) (arguments : List (Option Value))
    (site : CallSite) : Action Value := do
  let object ← newInstance id
  match ← readHeap fun heap => heap.attribute? object initializer with
  | some member =>
      let _ ← self (.call member arguments site)
      return .object object
  | none =>
      if arguments.isEmpty then return .object object
      else
        let name ← readHeap fun heap => (heap.constructor id).name
        raise site.frame site.span (.noInitializer name arguments.length)

end Evaluation
end Scripting
