import Scripting.Data.Heap

namespace Scripting
namespace Data

/-!
The names that every program starts with, and the mathematical ones that it can
import.
-/

/-- The functions that every program starts with. -/
def preludeFunctions : List Builtin :=
  [{ name := "print", operation := .print, optional := [("value", .text "")], variadic := true },
   { name := "input", operation := .input, optional := [("prompt", .text "")] },
   { name := "type", operation := .typeOf, required := ["value"] },
   { name := "str", operation := .toText, required := ["value"] },
   { name := "int", operation := .toInt, required := ["value"] },
   { name := "float", operation := .toFloat, required := ["value"] },
   { name := "list", operation := .toList, required := ["value"] },
   { name := "len", operation := .length, required := ["value"] },
   { name := "append", operation := .append, required := ["list", "value"] },
   { name := "pop", operation := .pop, required := ["list"], optional := [("index", .int (-1))] },
   { name := "insert", operation := .insert, required := ["list", "index", "value"] },
   { name := "extend", operation := .extend, required := ["list", "other"] },
   { name := "reverse", operation := .reverse, required := ["list"] },
   { name := "sort", operation := .sort, required := ["list"] },
   { name := "defined", operation := .defined, required := ["name"], inCallerFrame := true },
   { name := "exit", operation := .exit, optional := [("code", .int 0)] }]

/-- The constants that every program starts with. -/
def preludeConstants : List (String × Value) :=
  [("True", .int 1), ("False", .int 0), ("None", .nothing)]

/-- The functions of the mathematical module. -/
def mathFunctions : List Builtin :=
  [{ name := "sqrt", operation := .sqrt, required := ["x"] },
   { name := "floor", operation := .floor, required := ["x"] },
   { name := "ceil", operation := .ceil, required := ["x"] },
   { name := "sin", operation := .sin, required := ["x"] },
   { name := "cos", operation := .cos, required := ["x"] },
   { name := "abs", operation := .abs, required := ["x"] }]

/-- The constants of the mathematical module. -/
def mathConstants : List (String × Value) :=
  [("pi", .float 3.141592653589793), ("e", .float 2.718281828459045)]

namespace Heap

/-- Bind functions of the language under their names. -/
def installAll (heap : Heap) : List Builtin → Bindings Value → Bindings Value × Heap
  | [], bound => (bound, heap)
  | builtin :: rest, bound =>
      let (id, heap) := heap.newBuiltin builtin
      heap.installAll rest (bound.insert builtin.name (.builtin id))

/-- Functions of the language are created apart from the scope tables. -/
theorem tables_installAll (heap : Heap) (builtins : List Builtin) (bound : Bindings Value) :
    (heap.installAll builtins bound).2.tables = heap.tables := by
  induction builtins generalizing heap bound with
  | nil => rfl
  | cons builtin rest ih => exact ih _ _

/-- Those that are there stay in their places. -/
theorem builtins_installAll (heap : Heap) (builtins : List Builtin) (bound : Bindings Value) :
    heap.builtins.toList <+: (heap.installAll builtins bound).2.builtins.toList := by
  induction builtins generalizing heap bound with
  | nil => exact List.prefix_rfl
  | cons builtin rest ih =>
      refine List.IsPrefix.trans ?_ (ih _ _)
      change heap.builtins.toList <+: (heap.builtins.push builtin).toList
      rw [Array.toList_push]
      exact List.prefix_append _ _

/-- They are also apart from the functions that programs define. -/
theorem functions_installAll (heap : Heap) (builtins : List Builtin) (bound : Bindings Value) :
    (heap.installAll builtins bound).2.functions = heap.functions := by
  induction builtins generalizing heap bound with
  | nil => rfl
  | cons builtin rest ih => exact ih _ _

/-- The bindings that every program starts with. -/
def newPrelude (heap : Heap) : Bindings Value × Heap :=
  heap.installAll preludeFunctions (Bindings.ofList preludeConstants)

/-- What the modules of the language itself export. -/
def newNative? (heap : Heap) (name : String) : Option (Bindings Value × Heap) :=
  if name = "math" then some (heap.installAll mathFunctions (Bindings.ofList mathConstants))
  else none

end Heap

end Data
end Scripting
