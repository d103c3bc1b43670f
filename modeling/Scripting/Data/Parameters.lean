import Scripting.Data.Fault
import Scripting.Data.Heap

namespace Scripting
namespace Data

/-!
How arguments meet the parameters of a function of the language.

An argument without a value asks for the default of its parameter.  A required
parameter has none, so that a value has to be given for it; an optional one that
is left out takes its default as well.
-/

/-- The values that a function of the language is run with. -/
structure Arguments where
  /-- One value for each declared parameter. -/
  slots : List Value
  /-- The arguments after those, of a function that accepts any number of them. -/
  extras : List Value

/-- The values of required parameters. -/
def requiredValues (function : String) :
    List String → List (Option Value) → Except Fault (List Value)
  | [], _ => .ok []
  | _ :: parameters, some value :: arguments =>
      (requiredValues function parameters arguments).map (value :: ·)
  | parameter :: _, _ => .error (.missingArgument .builtin function parameter)

/-- The values of optional parameters: as given, or the declared defaults. -/
def optionalValues : List (String × Value) → List (Option Value) → List Value
  | [], _ => []
  | (_, fallback) :: parameters, arguments =>
      arguments.head?.join.getD fallback :: optionalValues parameters arguments.tail

/-- The smallest number of arguments. -/
def Builtin.least (builtin : Builtin) : Nat :=
  builtin.required.length

/-- The largest number of arguments, if there is one. -/
def Builtin.most? (builtin : Builtin) : Option Nat :=
  if builtin.variadic then none else some (builtin.required.length + builtin.optional.length)

/-- Whether a number of arguments is accepted. -/
def Builtin.accepts (builtin : Builtin) (count : Nat) : Bool :=
  builtin.least ≤ count && builtin.most?.all (count ≤ ·)

/-- The arguments of a call in the order of the parameters. -/
def Builtin.bind (builtin : Builtin) (arguments : List (Option Value)) :
    Except Fault Arguments :=
  if builtin.accepts arguments.length then
    let declared := builtin.required.length + builtin.optional.length
    (requiredValues builtin.name builtin.required arguments).map fun required =>
      { slots :=
          required ++ optionalValues builtin.optional (arguments.drop builtin.required.length)
        extras := (arguments.drop declared).map (·.getD .nothing) }
  else
    .error (.arity .builtin builtin.name builtin.least builtin.most? arguments.length)

end Data
end Scripting
