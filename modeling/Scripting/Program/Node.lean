import Scripting.Program.Operator
import Scripting.Source.Position

namespace Scripting
namespace Program

/-!
Programs as trees.

Statements and expressions are one type, because almost every statement may
stand where an expression does.  A node is a form together with the stretch of
text it was read from; the forms are defined for an arbitrary type of children,
so that they can be spoken of apart from the tree they make up.
-/

/-- The value of a number literal. -/
inductive Literal where
  | int (value : Int64)
  | float (value : Float)
  deriving DecidableEq

/-- What is assigned to: a variable, or an attribute of an object. -/
structure Target (α : Type) where
  object : Option α
  name : String
  span : Source.Span

/-- What decides how often the body of a loop runs. -/
inductive LoopHeader (α : Type) where
  /-- Count from a first value up or down to a last one, which is left out. -/
  | counted (counter : String) (first last : α) (step : Option α)
  /-- Visit the items of a list or the characters of a string. -/
  | each (item : String) (items : α)
  | whileTrue (condition : α)
  /-- The condition is tested after the body. -/
  | doWhile (condition : α)
  | endless

/--
The forms of a program.  The flag `block` tells a body on lines of its own from
one on the same line: only the latter makes a value.
-/
inductive Form (α : Type) where
  | number (value : Literal)
  | text (value : String)
  | list (elements : List α)
  | name (name : String)
  /-- Print a variable and its value. -/
  | inspect (name : String)
  /-- As an argument, ask for the default of the parameter. -/
  | placeholder
  | assign (targets : List (Target α)) (op : AssignOp) (values : List α)
  | delete (name : String)
  | binary (op : BinaryOp) (left right : α)
  | comparison (first : α) (links : List (CompareOp × α))
  | unary (op : UnaryOp) (operand : α)
  /-- The first operand with a value. -/
  | fallback (operands : List α)
  | conditional (cases : List (α × α)) (otherwise : Option α) (block : Bool)
  | loop (label : Option String) (header : LoopHeader α) (body : α) (block : Bool)
  /-- The flag `arrow` says that the value of the body is the result. -/
  | function (name : Option String) (required : List String) (optional : List (String × α))
      (body : α) (arrow : Bool)
  | classDef (name : String) (parent : Option α) (body : α)
  | call (callee : α) (arguments : List α)
  | attribute (base : α) (steps : List α)
  | returnFrom (value : Option α)
  | breakLoop (label : Option String)
  | continueLoop (label : Option String)
  | importModule (name : String) (rename : Option String)
  | exportAs (value : α) (name : String)
  | write (text : α) (overwrite : Bool) (target : α) (line : Option α)
  | read (target : α) (bind : Option String) (line : Option α)
  | assertion (condition : α) (message : Option α)
  | block (statements : List α)

/-- A form with the stretch of text it was read from. -/
structure Node where
  span : Source.Span
  form : Form Node

/-- The name that a step of an attribute chain looks up: its own or that of its callee. -/
def Node.headName? : Node → Option String
  | ⟨_, .name name⟩ => some name
  | ⟨_, .call callee _⟩ => callee.headName?
  | _ => none

end Program
end Scripting
