import Scripting.Data.Indexing
import Scripting.Evaluation.Machine
import Scripting.Number.Bounded

namespace Scripting
namespace Evaluation

/-!
Loops.

All loops make passes through a body one after another and differ only in what
they do around a pass.  A loop opens no scope, so that its counter and whatever
its body binds are still there after it.  A loop on one line gives the list of
the values of its completed passes; one with a block gives nothing.
-/

open Data (Jump LoopBound Value)
open Program (LoopHeader Node)
open Source (Span)

/-- How a pass through the body ended. -/
inductive Pass where
  | completed (value : Value)
  | skipped
  | left

/-- Whether a jump is meant for a loop; one without a label is meant for any loop. -/
def isAddressed (target label : Option String) : Bool :=
  match target with
  | none => true
  | some name => label = some name

/-- How a pass ends that a jump cuts short. -/
def passOf : Jump → Pass
  | .leave => .left
  | .next => .skipped

/-- A pass through the body of a loop, which answers the jumps that are meant for it. -/
def runPass (self : Evaluator) (frame : Frame) (label : Option String) (body : Node) :
    Action Pass := fun machine =>
  match self.eval body frame machine with
  | .ok value after => .ok (.completed value) after
  | .error (.signal (.jumped jump target place)) after =>
      if isAddressed target label then .ok (passOf jump) after
      else .error (.signal (.jumped jump target place)) after
  | .error interrupt after => .error interrupt after

/-- What a loop does when its turn comes. -/
inductive Turn (σ : Type) where
  /-- The loop is over. -/
  | finished
  /-- A pass was made; with a state the loop goes on from there. -/
  | made (pass : Pass) (next : Option σ)

/-- Take turns until the loop is over or left, and give the values of the completed passes. -/
def takeTurns {σ : Type} (turn : σ → Action (Turn σ)) :
    Nat → σ → List Value → Action (List Value)
  | 0, _, _ => throw .outOfFuel
  | fuel + 1, state, collected => do
      match ← turn state with
      | .finished => return collected.reverse
      | .made .left _ => return collected.reverse
      | .made (.completed value) none => return (value :: collected).reverse
      | .made (.completed value) (some next) => takeTurns turn fuel next (value :: collected)
      | .made .skipped none => return collected.reverse
      | .made .skipped (some next) => takeTurns turn fuel next collected

/-! ## Counted loops -/

/-- The value of a bound, which has to be an integer. -/
def evalBound (self : Evaluator) (frame : Frame) (bound : LoopBound) (node : Node) :
    Action Int64 := do
  match ← self.eval node frame with
  | .int n => return n
  | other => raise frame node.span (.loopBound bound (← typeName other))

/-- The step of a counted loop; by default it counts up by one. -/
def evalStepBound (self : Evaluator) (frame : Frame) : Option Node → Action Int64
  | none => return 1
  | some node => evalBound self frame .step node

/-- Whether a counter has not reached the last value, which is itself left out. -/
def isBefore (counter last step : Int64) : Bool :=
  if 0 ≤ step then counter < last else last < counter

/-- A turn of a counted loop; the counter stops where integers end. -/
def countedTurn (frame : Frame) (counter : String) (last step : Int64) (pass : Action Pass)
    (current : Int64) : Action (Turn Int64) := do
  if isBefore current last step then
    bindName frame counter (.int current)
    return .made (← pass) (Number.fit? (current.toInt + step.toInt))
  else return .finished

/-! ## Other loops -/

/-- A turn of a loop over items. -/
def eachTurn (frame : Frame) (name : String) (pass : Action Pass) :
    List Value → Action (Turn (List Value))
  | [] => return .finished
  | item :: rest => do
      bindName frame name item
      return .made (← pass) (some rest)

/-- Whether a condition holds. -/
def evalCondition (self : Evaluator) (frame : Frame) (condition : Node) : Action Bool := do
  isTruthy (← self.eval condition frame)

/-- A turn of a loop with its condition at the head. -/
def whileTurn (condition : Action Bool) (pass : Action Pass) (_ : Unit) :
    Action (Turn Unit) := do
  if ← condition then return .made (← pass) (some ())
  else return .finished

/-- A turn of a loop with its condition at the foot, where it is tested unless the loop is left. -/
def doWhileTurn (condition : Action Bool) (pass : Action Pass) (_ : Unit) :
    Action (Turn Unit) := do
  match ← pass with
  | .left => return .made .left none
  | other =>
      if ← condition then return .made other (some ())
      else return .made other none

/-- A turn of a loop without a condition. -/
def endlessTurn (pass : Action Pass) (_ : Unit) : Action (Turn Unit) := do
  return .made (← pass) (some ())

/-- Evaluate what the head of a loop asks for, and run it. -/
def runLoop (self : Evaluator) (fuel : Nat) (frame : Frame) (header : LoopHeader Node)
    (pass : Action Pass) : Action (List Value) := do
  match header with
  | .counted counter first last step =>
      let first ← evalBound self frame .start first
      let last ← evalBound self frame .stop last
      let step ← evalStepBound self frame step
      takeTurns (countedTurn frame counter last step pass) fuel first []
  | .each name node =>
      let value ← self.eval node frame
      let items ← check frame node.span fun heap => heap.items value
      takeTurns (eachTurn frame name pass) fuel items []
  | .whileTrue condition =>
      takeTurns (whileTurn (evalCondition self frame condition) pass) fuel () []
  | .doWhile condition =>
      takeTurns (doWhileTurn (evalCondition self frame condition) pass) fuel () []
  | .endless => takeTurns (endlessTurn pass) fuel () []

/-- A loop. -/
def evalLoop (self : Evaluator) (fuel : Nat) (frame : Frame) (label : Option String)
    (header : LoopHeader Node) (body : Node) (block : Bool) : Action Value := do
  let values ← runLoop self fuel frame header (runPass self frame label body)
  if block then return .nothing else newList values

end Evaluation
end Scripting
