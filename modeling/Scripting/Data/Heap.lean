import Scripting.Program.Node
import Scripting.Data.Value
import Scripting.Data.Bindings

namespace Scripting
namespace Data

/-!
The heap: everything that references refer to.

Each kind of thing has a store of its own in which nothing is ever removed, so
an identity is the place at which a thing was put into its store.  Lists, objects
and scope tables change in place; classes, functions, modules and functions of
the language never do.
-/

/-- The identity of a scope table. -/
structure TableId where
  index : Nat
  deriving DecidableEq, Repr

/-- The identity of the exports of a program or module. -/
structure ExportsId where
  index : Nat
  deriving DecidableEq, Repr

/--
A scope: the table in which names are bound, and the tables of the enclosing
scopes, the nearest first.  Names are looked up in all of them and bound only
in the first.
-/
structure Scope where
  inner : TableId
  outer : List TableId
  deriving DecidableEq, Repr

/-- The tables of a scope, the innermost first. -/
def Scope.tables (scope : Scope) : List TableId :=
  scope.inner :: scope.outer

/-- An instance of a class, with attributes of its own. -/
structure Object where
  constructor : ClassId
  attributes : Bindings Value

instance : Inhabited Object := ⟨⟨⟨0⟩, .empty⟩⟩

/-- A class: what its body defines, and the classes it extends with the root first. -/
structure Class where
  name : String
  members : Bindings Value
  ancestors : List ClassId

instance : Inhabited Class := ⟨⟨"", .empty, []⟩⟩

/-- A function that a program defines, with the scope and the text of its definition. -/
structure Function where
  name : String
  required : List String
  optional : List (String × Program.Node)
  body : Program.Node
  /-- The value of the body is the result. -/
  arrow : Bool
  scope : Scope
  document : Source.Document

instance : Inhabited Function :=
  ⟨⟨"", [], [], ⟨⟨.start, .start⟩, .block []⟩, false, ⟨⟨0⟩, []⟩, ⟨"", ""⟩⟩⟩

/-- What a function of the language does. -/
inductive Operation where
  | print
  | input
  | typeOf
  | toText
  | toInt
  | toFloat
  | toList
  | length
  | append
  | pop
  | insert
  | extend
  | reverse
  | sort
  | defined
  | exit
  | sqrt
  | floor
  | ceil
  | sin
  | cos
  | abs
  deriving DecidableEq, Repr

/-- A function of the language with its parameters. -/
structure Builtin where
  name : String
  operation : Operation
  required : List String := []
  optional : List (String × Value) := []
  /-- Arguments after the declared ones are collected in a list. -/
  variadic : Bool := false
  /-- The function runs in the frame of its caller, whose names it can see. -/
  inCallerFrame : Bool := false

instance : Inhabited Builtin := ⟨{ name := "", operation := .print }⟩

/-- An imported module with the values it exports. -/
structure Library where
  name : String
  exports : Bindings Value

instance : Inhabited Library := ⟨⟨"", .empty⟩⟩

/-- The stores of all things with an identity. -/
structure Heap where
  lists : Array (List Value) := #[]
  objects : Array Object := #[]
  classes : Array Class := #[]
  functions : Array Function := #[]
  builtins : Array Builtin := #[]
  libraries : Array Library := #[]
  tables : Array (Bindings Value) := #[]
  exports : Array (Bindings Value) := #[]

namespace Heap

/-! ## Reading -/

/-- The elements of a list. -/
def list (heap : Heap) (id : ListId) : List Value :=
  heap.lists.getD id.index []

def object (heap : Heap) (id : ObjectId) : Object :=
  heap.objects.getD id.index default

def constructor (heap : Heap) (id : ClassId) : Class :=
  heap.classes.getD id.index default

def function (heap : Heap) (id : FunctionId) : Function :=
  heap.functions.getD id.index default

def builtin (heap : Heap) (id : BuiltinId) : Builtin :=
  heap.builtins.getD id.index default

def library (heap : Heap) (id : ModuleId) : Library :=
  heap.libraries.getD id.index default

/-- The bindings of a scope table. -/
def table (heap : Heap) (id : TableId) : Bindings Value :=
  heap.tables.getD id.index .empty

/-- The bindings that a program or module has exported so far. -/
def exported (heap : Heap) (id : ExportsId) : Bindings Value :=
  heap.exports.getD id.index .empty

/-! ## Creation -/

def newList (heap : Heap) (items : List Value) : ListId × Heap :=
  (⟨heap.lists.size⟩, { heap with lists := heap.lists.push items })

def newObject (heap : Heap) (object : Object) : ObjectId × Heap :=
  (⟨heap.objects.size⟩, { heap with objects := heap.objects.push object })

def newClass (heap : Heap) (definition : Class) : ClassId × Heap :=
  (⟨heap.classes.size⟩, { heap with classes := heap.classes.push definition })

def newFunction (heap : Heap) (function : Function) : FunctionId × Heap :=
  (⟨heap.functions.size⟩, { heap with functions := heap.functions.push function })

def newBuiltin (heap : Heap) (builtin : Builtin) : BuiltinId × Heap :=
  (⟨heap.builtins.size⟩, { heap with builtins := heap.builtins.push builtin })

def newLibrary (heap : Heap) (library : Library) : ModuleId × Heap :=
  (⟨heap.libraries.size⟩, { heap with libraries := heap.libraries.push library })

def newTable (heap : Heap) (bindings : Bindings Value) : TableId × Heap :=
  (⟨heap.tables.size⟩, { heap with tables := heap.tables.push bindings })

def newExports (heap : Heap) : ExportsId × Heap :=
  (⟨heap.exports.size⟩, { heap with exports := heap.exports.push .empty })

/-- A scope inside another one, with a table of its own that holds the given bindings. -/
def newScope (heap : Heap) (bindings : Bindings Value) (enclosing : List TableId) :
    Scope × Heap :=
  let (id, heap) := heap.newTable bindings
  (⟨id, enclosing⟩, heap)

/-! ## Change -/

def setList (heap : Heap) (id : ListId) (items : List Value) : Heap :=
  { heap with lists := heap.lists.setIfInBounds id.index items }

/-- Set an attribute of an object. -/
def setAttribute (heap : Heap) (id : ObjectId) (name : String) (value : Value) : Heap :=
  let object := heap.object id
  let changed := { object with attributes := object.attributes.insert name value }
  { heap with objects := heap.objects.setIfInBounds id.index changed }

/-- Bind a name in a scope table. -/
def bind (heap : Heap) (id : TableId) (name : String) (value : Value) : Heap :=
  { heap with tables := heap.tables.modify id.index (·.insert name value) }

/-- Remove a name from a scope table. -/
def unbind (heap : Heap) (id : TableId) (name : String) : Heap :=
  { heap with tables := heap.tables.modify id.index (·.erase name) }

/-- Record an exported value. -/
def addExport (heap : Heap) (id : ExportsId) (name : String) (value : Value) : Heap :=
  { heap with exports := heap.exports.modify id.index (·.insert name value) }

/-! ## Names -/

/-- The value of a name in the nearest table of a scope that binds it. -/
def lookup? (heap : Heap) (scope : Scope) (name : String) : Option Value :=
  scope.tables.findSome? fun id => (heap.table id).get? name

/-- The names that can be seen from a scope, those of the innermost table first. -/
def visibleNames (heap : Heap) (scope : Scope) : List String :=
  scope.tables.flatMap fun id => (heap.table id).names

end Heap

end Data
end Scripting
