import Scripting.Evaluation.Builtins
import Scripting.Evaluation.Classes
import Scripting.Evaluation.Functions

namespace Scripting
namespace Evaluation

/-!
Calls.

What a call does depends on the value that is called.  Lists and texts are
called with a position and give the element there.
-/

open Data (Value)
open Program (Node)
open Source (Span)

/-- The element of a list or text that a call asks for. -/
def callSequence (sequence : Value) (arguments : List (Option Value)) (site : CallSite) :
    Action Value := do
  match arguments with
  | [some index] => check site.frame site.span fun heap => heap.element sequence index
  | _ => raise site.frame site.span (.indexArguments (← typeName sequence))

/-- Call a value. -/
def callValue (self : Evaluator) (settings : Settings) (callee : Value)
    (arguments : List (Option Value)) (site : CallSite) : Action Value := do
  match callee with
  | .function id => callFunction self settings id arguments site
  | .method id receiver =>
      callFunction self settings id (some (.object receiver) :: arguments) site
  | .builtin id => callBuiltin settings id arguments site
  | .constructor id => instantiate self id arguments site
  | .list id => callSequence (.list id) arguments site
  | .text s => callSequence (.text s) arguments site
  | other => raise site.frame site.span (.notCallable (← typeName other))

/-- An argument; a placeholder asks for the default. -/
def evalArgument (self : Evaluator) (frame : Frame) (node : Node) : Action (Option Value) :=
  match node.form with
  | .placeholder => return none
  | _ => do return some (← self.eval node frame)

/-- Arguments from left to right. -/
def evalArguments (self : Evaluator) (frame : Frame) : List Node → Action (List (Option Value))
  | [] => return []
  | node :: rest => do
      let value ← evalArgument self frame node
      let values ← evalArguments self frame rest
      return value :: values

/-- A call, whose callee is evaluated before its arguments. -/
def evalCall (self : Evaluator) (settings : Settings) (frame : Frame) (span : Span)
    (callee : Node) (arguments : List Node) : Action Value := do
  let value ← self.eval callee frame
  let values ← evalArguments self frame arguments
  callValue self settings value values ⟨frame, span, arguments.map (·.span)⟩

end Evaluation
end Scripting
