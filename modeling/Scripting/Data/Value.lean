import Scripting.Number.Binary64

namespace Scripting
namespace Data

/-!
Values of the language.

Numbers, texts and the absence of a value stand for themselves.  Everything with
an identity of its own is a reference: two references are the same exactly when
they were made by the same act of creation.
-/

/-- The identity of a list. -/
structure ListId where
  index : Nat
  deriving DecidableEq, Repr

/-- The identity of a module. -/
structure ModuleId where
  index : Nat
  deriving DecidableEq, Repr

/-- The identity of a class. -/
structure ClassId where
  index : Nat
  deriving DecidableEq, Repr

/-- The identity of an object. -/
structure ObjectId where
  index : Nat
  deriving DecidableEq, Repr

/-- The identity of a function that a program defines. -/
structure FunctionId where
  index : Nat
  deriving DecidableEq, Repr

/-- The identity of a function of the language itself. -/
structure BuiltinId where
  index : Nat
  deriving DecidableEq, Repr

/-- What an expression evaluates to.  Truth values are the integers one and zero. -/
inductive Value where
  /-- The absence of a value. -/
  | nothing
  | int (value : Int64)
  | float (value : Float)
  | text (value : String)
  | list (id : ListId)
  | library (id : ModuleId)
  | constructor (id : ClassId)
  | object (id : ObjectId)
  | function (id : FunctionId)
  /-- A function with the object that it was read from. -/
  | method (function : FunctionId) (receiver : ObjectId)
  | builtin (id : BuiltinId)
  deriving DecidableEq

instance : Inhabited Value := ⟨.nothing⟩

/-- A truth value as an integer. -/
def Value.ofBool (b : Bool) : Value :=
  .int (if b then 1 else 0)

/-- A number as a floating-point number. -/
def Value.toFloat? : Value → Option Float
  | .int n => some (Number.ofInteger n)
  | .float x => some x
  | _ => none

/-- Functions, methods and classes are called for what they do, not for an element. -/
def Value.isCallable : Value → Bool
  | .function _ | .method .. | .builtin _ | .constructor _ => true
  | _ => false

end Data
end Scripting
