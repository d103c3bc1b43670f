import Scripting.Data.Heap
import Scripting.Number.Written
import Scripting.Text.Quoted

namespace Scripting
namespace Data

/-!
How values are shown.

Every value has a shown form that tells it apart from values of other types;
texts are quoted in it.  A text shown on its own, as by printing, is not quoted.
-/

namespace Heap

/-- The name of an object's class. -/
def className (heap : Heap) (id : ObjectId) : String :=
  match heap.objects[id.index]? with
  | some object => (heap.constructor object.constructor).name
  | none => ""

/-- The name of a value's type; an object's type is its class. -/
def typeName (heap : Heap) : Value → String
  | .nothing => "NoneType"
  | .int _ => "int"
  | .float _ => "float"
  | .text _ => "str"
  | .list _ => "list"
  | .library _ => "module"
  | .constructor _ => "constructor"
  | .object id => heap.className id
  | .function _ => "function"
  | .method .. => "method"
  | .builtin _ => "built-in function"

/-- The shown form of a value other than a list. -/
def showAtom (heap : Heap) : Value → String
  | .nothing => "None"
  | .int n => Number.writeInt n
  | .float x => Number.writeFloat x
  | .text s => Text.quoted s
  | .list _ => "[]"
  | .library id => s!"<module {(heap.library id).name}>"
  | .constructor id => s!"<class {(heap.constructor id).name}>"
  | .object id => s!"<{heap.className id} object>"
  | .function id => s!"<function {(heap.function id).name}>"
  | .method function receiver =>
      s!"<method {(heap.function function).name} of {heap.className receiver} object>"
  | .builtin id => s!"<built-in function {(heap.builtin id).name}>"

/--
The shown form of a value, down to a given depth of lists inside lists, inside
lists that are being shown already; one of those is not entered again.
-/
def showWithin (heap : Heap) : Nat → List ListId → Value → String
  | depth + 1, entered, .list id =>
      if id ∈ entered then "[...]"
      else
        "[" ++ String.intercalate ", "
          ((heap.list id).map (heap.showWithin depth (id :: entered))) ++ "]"
  | _, _, value => heap.showAtom value

/-- The shown form of a value.  Lists are never nested deeper than there are lists. -/
def represent (heap : Heap) (value : Value) : String :=
  heap.showWithin (heap.lists.size + 1) [] value

/-- The form in which a value is printed: texts as they are, other values shown. -/
def display (heap : Heap) : Value → String
  | .text s => s
  | value => heap.represent value

/-- Zero, the empty text, the empty list and the absence of a value are false. -/
def isTruthy (heap : Heap) : Value → Bool
  | .nothing => false
  | .int n => n ≠ 0
  | .float x => x != 0
  | .text s => !s.isEmpty
  | .list id => !(heap.list id).isEmpty
  | _ => true

end Heap

end Data
end Scripting
