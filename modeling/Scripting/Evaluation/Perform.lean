import Scripting.Evaluation.Basic
import Scripting.Evaluation.Branches
import Scripting.Evaluation.Calls
import Scripting.Evaluation.Loops
import Scripting.Evaluation.Modules
import Scripting.Evaluation.Transfers

namespace Scripting
namespace Evaluation

/-!
Evaluation of programs.

Programs need not come to an end, so evaluation is given fuel: each task is
performed in terms of tasks with one unit less, and a loop makes at most as many
passes as there are units left.  Running out of fuel is neither a result nor an
error of the program, and more fuel never changes a result.
-/

open Data (Value)
open Program (Node)

/-- Evaluate a node in terms of its parts. -/
def evalNode (settings : Settings) (fuel : Nat) (self : Evaluator) (node : Node)
    (frame : Frame) : Action Value :=
  match node.form with
  | .number value => return evalLiteral value
  | .text value => return .text value
  | .list elements => evalList self frame elements
  | .name name => lookUp frame node.span name
  | .inspect name => evalInspect frame node.span name
  | .placeholder => return .nothing
  | .assign targets op values => evalAssign self frame node.span targets op values
  | .delete name => evalDelete frame node.span name
  | .binary op left right => evalBinary self frame node.span op left right
  | .comparison first links => evalComparison self frame node.span first links
  | .unary op operand => evalUnary self frame node.span op operand
  | .fallback operands => evalFallback self frame operands
  | .conditional cases otherwise block => evalConditional self frame cases otherwise block
  | .loop label header body block => evalLoop self fuel frame label header body block
  | .function name required optional body arrow =>
      evalFunction frame name required optional body arrow
  | .classDef name parent body => evalClass self frame node.span name parent body
  | .call callee arguments => evalCall self settings frame node.span callee arguments
  | .attribute base steps => evalAttribute self frame base steps
  | .returnFrom value => evalReturn self frame node.span value
  | .breakLoop label => evalJump frame node.span .leave label
  | .continueLoop label => evalJump frame node.span .next label
  | .importModule name rename => evalImport self settings frame node.span name rename
  | .exportAs value name => evalExport self frame value name
  | .write text overwrite target line =>
      evalWrite self settings frame node.span text overwrite target line
  | .read target name line => evalRead self settings frame node.span target name line
  | .assertion condition message => evalAssertion self frame node.span condition message
  | .block statements => evalSequence self frame .nothing statements

/-- Perform a task in terms of others. -/
def performWith (settings : Settings) (fuel : Nat) (self : Evaluator) : Evaluator
  | .evaluate node frame => evalNode settings fuel self node frame
  | .call callee arguments site => callValue self settings callee arguments site

/-- Perform a task with a given amount of fuel. -/
def perform (settings : Settings) : Nat → Evaluator
  | 0, _ => throw .outOfFuel
  | fuel + 1, task => performWith settings fuel (perform settings fuel) task

end Evaluation
end Scripting
