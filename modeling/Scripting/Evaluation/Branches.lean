import Scripting.Evaluation.Machine

namespace Scripting
namespace Evaluation

/-!
Branches, assertions, and the statements that leave the normal order.
-/

open Data (Jump Value)
open Program (Node)
open Source (Span)

/-- The body of the first case whose condition holds. -/
def chooseCase (self : Evaluator) (frame : Frame) (otherwise : Option Node) :
    List (Node × Node) → Action (Option Node)
  | [] => return otherwise
  | (condition, body) :: rest => do
      let decided ← self.eval condition frame
      if ← isTruthy decided then return some body
      else chooseCase self frame otherwise rest

/--
A conditional.  Its branches share the scope that it stands in, and it has the
value of a branch only if it is written on one line.
-/
def evalConditional (self : Evaluator) (frame : Frame) (cases : List (Node × Node))
    (otherwise : Option Node) (block : Bool) : Action Value := do
  match ← chooseCase self frame otherwise cases with
  | none => return .nothing
  | some body =>
      let value ← self.eval body frame
      return if block then .nothing else value

/-- What an assertion says when it fails. -/
def evalMessage (self : Evaluator) (frame : Frame) : Option Node → Action (Option String)
  | none => return none
  | some node => do
      let value ← self.eval node frame
      return some (← readHeap fun heap => heap.display value)

/-- An assertion; its message is evaluated only if it fails. -/
def evalAssertion (self : Evaluator) (frame : Frame) (span : Span) (condition : Node)
    (message : Option Node) : Action Value := do
  let decided ← self.eval condition frame
  if ← isTruthy decided then return .nothing
  else raise frame span (.assertionFailed (← evalMessage self frame message))

/-- An expression that may be left out. -/
def evalOptional (self : Evaluator) (frame : Frame) : Option Node → Action Value
  | none => return .nothing
  | some node => self.eval node frame

/-- Leave the function with a value. -/
def evalReturn (self : Evaluator) (frame : Frame) (span : Span) (value : Option Node) :
    Action Value := do
  let result ← evalOptional self frame value
  throw (.signal (.returned result (frame.place span)))

/-- Leave a loop, or begin its next pass. -/
def evalJump (frame : Frame) (span : Span) (jump : Jump) (label : Option String) :
    Action Value :=
  throw (.signal (.jumped jump label (frame.place span)))

end Evaluation
end Scripting
