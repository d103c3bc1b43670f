import Scripting.Data.Attributes
import Scripting.Evaluation.Machine

namespace Scripting
namespace Evaluation

/-!
Names, literals, operators and assignments.
-/

open Data (Bindings Fault Heap Value)
open Program (AssignOp BinaryOp CompareOp Node Target UnaryOp Literal)
open Source (Span)

/-- Evaluate nodes from left to right. -/
def evalAll (self : Evaluator) (frame : Frame) : List Node → Action (List Value)
  | [] => return []
  | node :: rest => do
      let value ← self.eval node frame
      let values ← evalAll self frame rest
      return value :: values

/-- Evaluate statements in order; the value is that of the last one. -/
def evalSequence (self : Evaluator) (frame : Frame) (last : Value) : List Node → Action Value
  | [] => return last
  | node :: rest => do
      let value ← self.eval node frame
      evalSequence self frame value rest

def evalLiteral : Literal → Value
  | .int n => .int n
  | .float x => .float x

def evalList (self : Evaluator) (frame : Frame) (elements : List Node) : Action Value := do
  newList (← evalAll self frame elements)

/-- Print the name and the shown form of a variable. -/
def evalInspect (frame : Frame) (span : Span) (name : String) : Action Value := do
  let value ← lookUp frame span name
  let shown ← readHeap fun heap => heap.represent value
  printText frame span s!"{name} = {shown}\n"
  return value

/-! ## Attributes -/

/--
A step of an attribute chain.  It is evaluated where the attributes of the value
so far can be seen, and all names that the frame sees besides.
-/
def evalStep (self : Evaluator) (frame : Frame) (current : Value) (step : Node) :
    Action Value := do
  let attributes ← readHeap fun heap => heap.attributes current
  match step.headName? with
  | some name =>
      if attributes.contains name then evalInside attributes
      else raise frame step.span (.noAttribute (← typeName current) name)
  | none => evalInside attributes
where
  evalInside (attributes : Bindings Value) : Action Value := do
    let scope ← openScope attributes frame.scope
    self.eval step { frame with scope := scope, exports := none }

/-- The steps of an attribute chain one after the other. -/
def evalSteps (self : Evaluator) (frame : Frame) (current : Value) : List Node → Action Value
  | [] => return current
  | step :: rest => do
      let next ← evalStep self frame current step
      evalSteps self frame next rest

def evalAttribute (self : Evaluator) (frame : Frame) (base : Node) (steps : List Node) :
    Action Value := do
  let value ← self.eval base frame
  evalSteps self frame value steps

/-! ## Operators -/

/-- Apply an operator to two values. -/
def applyBinary (frame : Frame) (span : Span) (op : BinaryOp) (left right : Value) :
    Action Value := do
  let product ← check frame span fun heap => heap.binary op left right
  realize product

/-- A binary operator; the logical ones may do without their right operand. -/
def evalBinary (self : Evaluator) (frame : Frame) (span : Span) (op : BinaryOp)
    (left right : Node) : Action Value := do
  let first ← self.eval left frame
  let decided ← isTruthy first
  if op = .and ∧ decided = false then return .ofBool false
  else if op = .or ∧ decided = true then return .ofBool true
  else
    let second ← self.eval right frame
    applyBinary frame span op first second

/-- The links of a chain of comparisons, up to the first that fails. -/
def evalLinks (self : Evaluator) (frame : Frame) (span : Span) (left : Value) :
    List (CompareOp × Node) → Action Value
  | [] => return .ofBool true
  | (op, node) :: rest => do
      let right ← self.eval node frame
      if ← check frame span fun heap => heap.compare op left right then
        evalLinks self frame span right rest
      else return .ofBool false

def evalComparison (self : Evaluator) (frame : Frame) (span : Span) (first : Node)
    (links : List (CompareOp × Node)) : Action Value := do
  let left ← self.eval first frame
  evalLinks self frame span left links

def evalUnary (self : Evaluator) (frame : Frame) (span : Span) (op : UnaryOp)
    (operand : Node) : Action Value := do
  let value ← self.eval operand frame
  check frame span fun heap => heap.unary op value

/-- The first operand that has a value; the last one is taken as it is. -/
def evalFallback (self : Evaluator) (frame : Frame) : List Node → Action Value
  | [] => return .nothing
  | [last] => self.eval last frame
  | operand :: rest => do
      let value ← self.eval operand frame
      if value = .nothing then evalFallback self frame rest else return value

/-! ## Assignments -/

/-- The value to assign: as given, or combined with the current one. -/
def combine (frame : Frame) (span : Span) (op : AssignOp) (current : Action Value)
    (value : Value) : Action Value :=
  match op with
  | .set => return value
  | .compound binary => do
      let old ← current
      applyBinary frame span binary old value

/-- Assign to a variable in the frame's own table. -/
def assignName (frame : Frame) (span : Span) (name : String) (op : AssignOp) (value : Value) :
    Action Value := do
  let assigned ← combine frame span op (lookUp frame span name) value
  bindName frame name assigned
  return assigned

/-- An attribute as it is stored, to be combined with a new value. -/
def storedAttribute (frame : Frame) (span : Span) (id : Data.ObjectId) (name : String) :
    Action Value := do
  match ← readHeap fun heap => (heap.object id).attributes.get? name with
  | some value => return value
  | none => raise frame span (.noAttribute (← typeName (.object id)) name)

/-- Assign to an attribute, which only objects have. -/
def assignAttribute (frame : Frame) (span : Span) (owner : Value) (name : String)
    (op : AssignOp) (value : Value) : Action Value := do
  match owner with
  | .object id =>
      let assigned ← combine frame span op (storedAttribute frame span id name) value
      changeHeap fun heap => heap.setAttribute id name assigned
      return assigned
  | other => raise frame span (.cannotSetAttribute name (← typeName other))

/-- Assign a value to a target. -/
def assignTarget (self : Evaluator) (frame : Frame) (op : AssignOp) (target : Target Node)
    (value : Value) : Action Value := do
  match target.object with
  | none => assignName frame target.span target.name op value
  | some node =>
      let owner ← self.eval node frame
      assignAttribute frame target.span owner target.name op value

/-- Assign values to targets pairwise. -/
def assignAll (self : Evaluator) (frame : Frame) (op : AssignOp) :
    List (Target Node) → List Value → Action (List Value)
  | target :: targets, value :: values => do
      let assigned ← assignTarget self frame op target value
      let others ← assignAll self frame op targets values
      return assigned :: others
  | _, _ => return []

/-- An assignment: all values are evaluated before the first target is set. -/
def evalAssign (self : Evaluator) (frame : Frame) (span : Span) (targets : List (Target Node))
    (op : AssignOp) (nodes : List Node) : Action Value := do
  let values ← evalAll self frame nodes
  if values.length ≠ targets.length then
    raise frame span (.assignmentCount values.length targets.length)
  else
    match ← assignAll self frame op targets values with
    | [assigned] => return assigned
    | assigned => newList assigned

/-- Remove a variable from the frame's own table. -/
def evalDelete (frame : Frame) (span : Span) (name : String) : Action Value := do
  match ← readHeap fun heap => (heap.table frame.scope.inner).get? name with
  | some value =>
      changeHeap fun heap => heap.unbind frame.scope.inner name
      return value
  | none => raiseUndefined frame span name

end Evaluation
end Scripting
