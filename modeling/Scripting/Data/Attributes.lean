import Scripting.Data.Heap

namespace Scripting
namespace Data

/-!
Attributes of objects, classes and modules.

An object starts with the members of its class and of all classes that the class
extends.  Where several of them define a name, the most derived one wins, and the
name keeps the place where it was met first from the root.
-/

namespace Heap

/-- The attributes of a fresh instance of a class. -/
def instanceAttributes (heap : Heap) (definition : Class) : Bindings Value :=
  let inherited := definition.ancestors.foldl
    (fun bound ancestor => bound.insertAll (heap.constructor ancestor).members.entries)
    Bindings.empty
  inherited.insertAll definition.members.entries

/-- A class whose members and parent are given; its ancestors are those of the parent and it. -/
def extendClass (heap : Heap) (name : String) (members : Bindings Value)
    (parent : Option ClassId) : Class where
  name := name
  members := members
  ancestors :=
    match parent with
    | some id => (heap.constructor id).ancestors ++ [id]
    | none => []

end Heap

/-- A function read from an object is bound to it; other values stay as they are. -/
def bindTo (receiver : ObjectId) : Value → Value
  | .function id => .method id receiver
  | value => value

namespace Heap

/-- An attribute of an object. -/
def attribute? (heap : Heap) (id : ObjectId) (name : String) : Option Value :=
  ((heap.object id).attributes.get? name).map (bindTo id)

/-- The names that can be reached through a value, with what they stand for. -/
def attributes (heap : Heap) : Value → Bindings Value
  | .object id => (heap.object id).attributes.map (bindTo id)
  | .library id => (heap.library id).exports
  | .constructor id => heap.instanceAttributes (heap.constructor id)
  | _ => .empty

end Heap

end Data
end Scripting
