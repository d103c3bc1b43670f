import Scripting.Data.Conversion
import Scripting.Data.Parameters
import Scripting.Evaluation.Machine

namespace Scripting
namespace Evaluation

/-!
Functions of the language.

They are given one value for each of their parameters and check the types of
those themselves.  A function of the language has a frame of its own, which only
shows in reports of errors; errors about an argument are reported where that
argument is written.
-/

open Data (Arguments Builtin BuiltinId Fault ListId Operation Value)

/-- A call of a function of the language. -/
structure BuiltinCall where
  name : String
  /-- The frame the function runs in. -/
  frame : Frame
  site : CallSite

/-- Interrupt with a fault at the call. -/
def BuiltinCall.raise {α : Type} (call : BuiltinCall) (fault : Fault) : Action α :=
  Evaluation.raise call.frame call.site.span fault

/-- The result of an operation that reads the heap, or its fault at the call. -/
def BuiltinCall.check {α : Type} (call : BuiltinCall)
    (operation : Data.Heap → Except Fault α) : Action α :=
  Evaluation.check call.frame call.site.span operation

/-- Interrupt with a fault at an argument, which are counted from one. -/
def BuiltinCall.raiseAt {α : Type} (call : BuiltinCall) (ordinal : Nat) (fault : Fault) :
    Action α :=
  match call.site.arguments[ordinal - 1]? with
  | some span => Evaluation.raise call.site.frame span fault
  | none => call.raise fault

/-! ## Types of arguments -/

/-- Interrupt because an argument has the wrong type. -/
def BuiltinCall.mismatch {α : Type} (call : BuiltinCall) (ordinal : Nat) (expected : String)
    (value : Value) : Action α := do
  call.raiseAt ordinal (.argumentType call.name ordinal expected (← typeName value))

def BuiltinCall.listAt (call : BuiltinCall) (ordinal : Nat) : Value → Action ListId
  | .list id => return id
  | value => call.mismatch ordinal "a list" value

def BuiltinCall.intAt (call : BuiltinCall) (ordinal : Nat) : Value → Action Int64
  | .int n => return n
  | value => call.mismatch ordinal "an int" value

def BuiltinCall.textAt (call : BuiltinCall) (ordinal : Nat) : Value → Action String
  | .text s => return s
  | value => call.mismatch ordinal "a str" value

def BuiltinCall.numberAt (call : BuiltinCall) (ordinal : Nat) (value : Value) :
    Action Float :=
  match value.toFloat? with
  | some x => return x
  | none => call.mismatch ordinal "a number" value

/-! ## Console -/

/-- Print values on one line, with a space between each two. -/
def runPrint (call : BuiltinCall) (values : List Value) : Action Value := do
  let shown ← readHeap fun heap => values.map heap.display
  printText call.frame call.site.span (String.intercalate " " shown ++ "\n")
  return .nothing

/-- Print a prompt and read a line. -/
def runInput (call : BuiltinCall) (prompt : Value) : Action Value := do
  let shown ← readHeap fun heap => heap.display prompt
  printText call.frame call.site.span shown
  return .text (← readLine call.frame call.site.span)

/-! ## Lists -/

/-- Replace the elements of a list. -/
def changeList (id : ListId) (change : List Value → List Value) : Action Value := do
  changeHeap fun heap => heap.setList id (change (heap.list id))
  return .nothing

def runAppend (call : BuiltinCall) (list value : Value) : Action Value := do
  let id ← call.listAt 1 list
  changeList id (· ++ [value])

/-- Remove the element at a position and give it. -/
def runPop (call : BuiltinCall) (list index : Value) : Action Value := do
  let id ← call.listAt 1 list
  let index ← call.intAt 2 index
  let items ← readHeap fun heap => heap.list id
  match (Data.place? items.length index.toInt).bind fun place => items[place]?.map (place, ·) with
  | some (place, item) =>
      let _ ← changeList id (·.eraseIdx place)
      return item
  | none => call.raiseAt 2 (.popOutOfRange index.toInt)

def runInsert (call : BuiltinCall) (list index value : Value) : Action Value := do
  let id ← call.listAt 1 list
  let index ← call.intAt 2 index
  changeList id fun items =>
    items.insertIdx (Data.insertionPlace items.length index.toInt) value

def runExtend (call : BuiltinCall) (list other : Value) : Action Value := do
  let id ← call.listAt 1 list
  let otherId ← call.listAt 2 other
  let more ← readHeap fun heap => heap.list otherId
  changeList id (· ++ more)

def runReverse (call : BuiltinCall) (list : Value) : Action Value := do
  let id ← call.listAt 1 list
  changeList id List.reverse

/-- Whether a number may stand before another one. -/
def numberBefore (left right : Value) : Bool :=
  match left.toFloat?, right.toFloat? with
  | some x, some y => Data.floatOrder? x y ≠ some .gt
  | _, _ => true

/-- Whether a text may stand before another one. -/
def textBefore (left right : Value) : Bool :=
  match left, right with
  | .text a, .text b => Data.textOrder a b ≠ .gt
  | _, _ => true

def isText : Value → Bool
  | .text _ => true
  | _ => false

/--
Numbers or texts in order; equal ones stay in the order they were in.  What is no number
counts as equal to every number, which orders nothing: for a list in which it stands beside
numbers the sorting of the system promises some arrangement and may also break off, and the
one given here is a choice.
-/
def sorted? (items : List Value) : Option (List Value) :=
  if items.all fun item => item.toFloat?.isSome then some (items.mergeSort numberBefore)
  else if items.all isText then some (items.mergeSort textBefore)
  else none

def runSort (call : BuiltinCall) (list : Value) : Action Value := do
  let id ← call.listAt 1 list
  match sorted? (← readHeap fun heap => heap.list id) with
  | some items => changeList id fun _ => items
  | none => call.raise .unsortable

/-! ## Names and the end of the program -/

/-- Whether a name can be seen where the function is called. -/
def runDefined (call : BuiltinCall) (name : Value) : Action Value := do
  let name ← call.textAt 1 name
  let found ← readHeap fun heap => heap.lookup? call.frame.scope name
  return .ofBool found.isSome

/-- The exit code that a number asks for; one that is too large means failure. -/
def exitCode (n : Int64) : Int32 :=
  if -2147483648 ≤ n.toInt ∧ n.toInt < 2147483648 then n.toInt32 else 1

def runExit (call : BuiltinCall) (code : Value) : Action Value := do
  let code ← call.intAt 1 code
  throw (.signal (.exited (exitCode code)))

/-! ## Mathematics -/

/-- A function on floating-point numbers. -/
def runReal (call : BuiltinCall) (compute : Float → Float) (value : Value) : Action Value := do
  let x ← call.numberAt 1 value
  return .float (compute x)

def runSqrt (call : BuiltinCall) (value : Value) : Action Value := do
  let x ← call.numberAt 1 value
  if x < 0 then call.raiseAt 1 .mathDomain else return .float x.sqrt

/-- Round to an integer; integers are left as they are. -/
def runRound (call : BuiltinCall) (round : Float → Float) (value : Value) : Action Value := do
  match value with
  | .int n => return .int n
  | value =>
      let x ← call.numberAt 1 value
      call.check fun heap => heap.toInt (.float (round x))

/-- An integer as a result, unless it is out of range. -/
def BuiltinCall.fitted (call : BuiltinCall) : Option Int64 → Action Value
  | some word => return .int word
  | none => call.raise (.tooLarge call.name)

def runAbs (call : BuiltinCall) (value : Value) : Action Value := do
  match value with
  | .int n => call.fitted (Number.fit? n.toInt.natAbs)
  | value => runReal call Float.abs value

/-! ## Calls -/

/--
Run a function of the language.  It has exactly the slots that it declares; reading
another one would break off the interpreter.
-/
def runOperation (call : BuiltinCall) (operation : Operation) (arguments : Arguments) :
    Action Value := do
  match operation, arguments.slots with
  | .print, values => runPrint call (values ++ arguments.extras)
  | .input, [prompt] => runInput call prompt
  | .typeOf, [value] => return .text (← typeName value)
  | .toText, [value] => return .text (← readHeap fun heap => heap.display value)
  | .toInt, [value] => call.check fun heap => heap.toInt value
  | .toFloat, [value] => call.check fun heap => heap.toFloat value
  | .toList, [value] => newList (← call.check fun heap => heap.toItems value)
  | .length, [value] =>
      let count ← call.check fun heap => heap.length value
      return .int (Int64.ofNat count)
  | .append, [list, value] => runAppend call list value
  | .pop, [list, index] => runPop call list index
  | .insert, [list, index, value] => runInsert call list index value
  | .extend, [list, other] => runExtend call list other
  | .reverse, [list] => runReverse call list
  | .sort, [list] => runSort call list
  | .defined, [name] => runDefined call name
  | .exit, [code] => runExit call code
  | .sqrt, [value] => runSqrt call value
  | .floor, [value] => runRound call Float.floor value
  | .ceil, [value] => runRound call Float.ceil value
  | .sin, [value] => runReal call Float.sin value
  | .cos, [value] => runReal call Float.cos value
  | .abs, [value] => runAbs call value
  | _, _ => throw (.crashed .undeclared)

/-- The frame that a function of the language runs in. -/
def builtinFrame (builtin : Builtin) (site : CallSite) : Frame :=
  if builtin.inCallerFrame then site.frame
  else { site.frame with trail := site.frame.enter builtin.name site.span, exports := none }

/-- Call a function of the language. -/
def callBuiltin (settings : Settings) (id : BuiltinId) (arguments : List (Option Value))
    (site : CallSite) : Action Value := do
  let builtin ← readHeap fun heap => heap.builtin id
  let bound ← check site.frame site.span fun _ => builtin.bind arguments
  withinCall settings site.frame site.span
    (runOperation ⟨builtin.name, builtinFrame builtin site, site⟩ builtin.operation bound)

end Evaluation
end Scripting
