import Scripting.Number.Written
import Scripting.Program.Operator
import Scripting.Text.Counting
import Scripting.Text.Quoted

namespace Scripting
namespace Data

/-!
What can go wrong while a program runs.

A fault says what happened; where it happened is added by whoever evaluates the
program.  The wording of all reports is in this module.
-/

open Program (BinaryOp CompareOp UnaryOp)

/-- Kinds of faults, by which they are reported. -/
inductive FaultKind where
  | runTime
  | type
  | index
  | arithmetic
  | overflow
  | notDefined
  | attribute
  | assertion
  | fileNotFound
  | recursion
  | native
  deriving DecidableEq, Repr

def FaultKind.name : FaultKind → String
  | .runTime => "RunTimeError"
  | .type => "TypeError"
  | .index => "IndexError"
  | .arithmetic => "ArithmeticError"
  | .overflow => "OverflowError"
  | .notDefined => "NotDefinedError"
  | .attribute => "AttributeError"
  | .assertion => "AssertionError"
  | .fileNotFound => "FileNotFoundError"
  | .recursion => "RecursionError"
  | .native => "NativeError"

/-- Functions of a program and functions of the language. -/
inductive FunctionKind where
  | defined
  | builtin
  deriving DecidableEq, Repr

def FunctionKind.describe : FunctionKind → String
  | .defined => "function"
  | .builtin => "built-in function"

/-- The jumps out of or within a loop. -/
inductive Jump where
  | leave
  | next
  deriving DecidableEq, Repr

def Jump.spelling : Jump → String
  | .leave => "break"
  | .next => "continue"

/-- Types that texts can be converted to. -/
inductive Conversion where
  | toInt
  | toFloat
  | toList
  deriving DecidableEq, Repr

def Conversion.name : Conversion → String
  | .toInt => "int"
  | .toFloat => "float"
  | .toList => "list"

/-- The bounds of a counted loop. -/
inductive LoopBound where
  | start
  | stop
  | step
  deriving DecidableEq, Repr

def LoopBound.name : LoopBound → String
  | .start => "start"
  | .stop => "end"
  | .step => "step"

/-- Statements that exchange text with files and the console. -/
inductive Transfer where
  | write
  | read
  deriving DecidableEq, Repr

def Transfer.name : Transfer → String
  | .write => "write"
  | .read => "read"

/-- What happened.  Types appear by the name that the language has for them. -/
inductive Fault where
  | badOperand (op : UnaryOp) (type : String)
  | unsupportedOperands (op : BinaryOp) (left right : String)
  | incomparable (op : CompareOp) (left right : String)
  | indexType (container index : String)
  | notSubscriptable (type : String)
  | notIterable (type : String)
  | noLength (type : String)
  | notConvertible (target : Conversion) (type : String)
  | argumentType (function : String) (ordinal : Nat) (expected got : String)
  | notCallable (type : String)
  | indexArguments (type : String)
  /-- Without a largest count any number of further arguments is accepted. -/
  | arity (kind : FunctionKind) (name : String) (least : Nat) (most : Option Nat) (got : Nat)
  | missingArgument (kind : FunctionKind) (name parameter : String)
  | cannotInherit (name type : String)
  | noInitializer (name : String) (got : Nat)
  | loopBound (bound : LoopBound) (type : String)
  | transferTarget (transfer : Transfer) (type : String)
  | lineType (type : String)
  | unsortable
  | indexOutOfRange (index : Int)
  | popOutOfRange (index : Int)
  | lineOutOfRange (line : Int)
  | divisionByZero
  | integerDivisionByZero
  | moduloByZero
  | zeroToNegativePower
  | mathDomain
  | tooLarge (operation : String)
  | repetitionTooLong
  | floatToInt (x : Float)
  | invalidLiteral (target : Conversion) (text : String)
  | assignmentCount (values targets : Nat)
  | returnOutside
  | jumpOutside (jump : Jump)
  | labelUnmatched (jump : Jump)
  | notAModule (name : String)
  | loadFailure (name details : String)
  | notDefined (name : String) (suggestion : Option String)
  | noAttribute (type name : String)
  | cannotSetAttribute (name type : String)
  | assertionFailed (message : Option String)
  | fileNotFound (target : String)
  | recursionLimit
  /-- A failure of the system underneath, in its own words. -/
  | system (details : String)
  deriving DecidableEq

def Fault.kind : Fault → FaultKind
  | .badOperand .. | .unsupportedOperands .. | .incomparable .. | .indexType ..
  | .notSubscriptable _ | .notIterable _ | .noLength _ | .notConvertible ..
  | .argumentType .. | .notCallable _ | .indexArguments _ | .arity .. | .missingArgument ..
  | .cannotInherit .. | .noInitializer .. | .loopBound .. | .transferTarget .. | .lineType _
  | .unsortable => .type
  | .indexOutOfRange _ | .popOutOfRange _ | .lineOutOfRange _ => .index
  | .divisionByZero | .integerDivisionByZero | .moduloByZero | .zeroToNegativePower
  | .mathDomain => .arithmetic
  | .tooLarge _ | .repetitionTooLong | .floatToInt _ => .overflow
  | .invalidLiteral .. | .assignmentCount .. | .returnOutside | .jumpOutside _
  | .labelUnmatched _ | .notAModule _ | .loadFailure .. => .runTime
  | .notDefined .. => .notDefined
  | .noAttribute .. | .cannotSetAttribute .. => .attribute
  | .assertionFailed _ => .assertion
  | .fileNotFound _ => .fileNotFound
  | .recursionLimit => .recursion
  | .system _ => .native

/-- How many arguments a function asks for. -/
def describeArity (least : Nat) : Option Nat → String
  | some most =>
      if most = least then s!"{least} argument{Text.plural least}"
      else s!"{least} to {most} arguments"
  | none => s!"at least {least} argument{Text.plural least}"

/-- A name between two underscores on each side, such as that of an initializer. -/
def isReservedName (name : String) : Bool :=
  4 < name.utf8ByteSize && ['_', '_'].isPrefixOf name.toList &&
    ['_', '_'].isPrefixOf name.toList.reverse

/-- What is said of a name that is not defined. -/
def describeUndefined (name : String) (suggestion : Option String) : String :=
  s!"'{name}' is not defined." ++
    (match suggestion with
      | some other => s!"\nDid you mean '{other}'?"
      | none => "") ++
    (if isReservedName name then
      "\nNote: names like '__init__' are only defined by the constructs that use them."
    else "")

/-- What the report of a fault says. -/
def Fault.message : Fault → String
  | .badOperand op type => s!"bad operand type for unary {op.spelling}: '{type}'."
  | .unsupportedOperands op left right =>
      s!"unsupported operand type(s) for {op.spelling}: '{left}' and '{right}'."
  | .incomparable op left right =>
      s!"'{op.spelling}' not supported between instances of '{left}' and '{right}'."
  | .indexType container index => s!"{container} indices must be integers, not {index}."
  | .notSubscriptable type => s!"'{type}' object is not subscriptable."
  | .notIterable type => s!"'{type}' object is not iterable."
  | .noLength type => s!"object of type '{type}' has no len()."
  | .notConvertible target type =>
      s!"{target.name}() argument must be a string or a number, not '{type}'."
  | .argumentType function ordinal expected got =>
      s!"{Text.ordinal ordinal} argument of built-in function '{function}' must be {expected}, not {got}."
  | .notCallable type => s!"'{type}' object is not callable."
  | .indexArguments type => s!"'{type}' object takes exactly one index argument."
  | .arity kind name least most got =>
      s!"{kind.describe} '{name}' expected {describeArity least most}, got {got}."
  | .missingArgument kind name parameter =>
      s!"{kind.describe} '{name}' has no default for required parameter '{parameter}'."
  | .cannotInherit name type => s!"class '{name}' cannot inherit from '{type}' object."
  | .noInitializer name got => s!"class '{name}' takes no arguments, got {got}."
  | .loopBound bound type => s!"'for' loop {bound.name} must be an int, not {type}."
  | .transferTarget transfer type => s!"'{transfer.name}' target must be a str, not {type}."
  | .lineType type => s!"line number must be an int, not {type}."
  | .unsortable => "sort() requires a list of only numbers or only strings."
  | .indexOutOfRange index => s!"index {index} is out of range."
  | .popOutOfRange index => s!"pop index {index} is out of range."
  | .lineOutOfRange line => s!"line {line} is out of range."
  | .divisionByZero => "division by zero."
  | .integerDivisionByZero => "integer division by zero."
  | .moduloByZero => "modulo by zero."
  | .zeroToNegativePower => "zero cannot be raised to a negative power."
  | .mathDomain => "math domain error."
  | .tooLarge operation => s!"result of '{operation}' is too large to represent."
  | .repetitionTooLong => "repeated sequence is too long."
  | .floatToInt x => s!"cannot convert float {Number.writeFloat x} to int."
  | .invalidLiteral target text => s!"invalid literal for {target.name}(): {Text.quoted text}."
  | .assignmentCount values targets =>
      s!"cannot assign {values} value{Text.plural values} to {targets} target{Text.plural targets}."
  | .returnOutside => "'return' outside of a function"
  | .jumpOutside jump => s!"'{jump.spelling}' outside of a loop"
  | .labelUnmatched jump => s!"'{jump.spelling}' does not match any enclosing loop label"
  | .notAModule name => s!"'{name}' is not a module."
  | .loadFailure name details => s!"failed to load module '{name}': {details}"
  | .notDefined name suggestion => describeUndefined name suggestion
  | .noAttribute type name => s!"'{type}' object has no attribute '{name}'."
  | .cannotSetAttribute name type => s!"cannot set attribute '{name}' on '{type}' object."
  | .assertionFailed message => message.getD "assertion failed."
  | .fileNotFound target => s!"file '{target}' not found."
  | .recursionLimit => "maximum recursion depth exceeded"
  | .system details => details

end Data
end Scripting
