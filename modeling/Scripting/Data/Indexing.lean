import Scripting.Data.Display
import Scripting.Data.Fault

namespace Scripting
namespace Data

/-!
Positions in lists and texts.

Positions count from zero; negative ones count from the end.
-/

/-- The place that a position refers to in a sequence of the given length. -/
def place? (length : Nat) (index : Int) : Option Nat :=
  let shifted := if index < 0 then index + length else index
  if 0 ≤ shifted ∧ shifted < length then some shifted.toNat else none

/-- The place at which an inserted element goes; positions past an end mean that end. -/
def insertionPlace (length : Nat) (index : Int) : Nat :=
  if index < 0 then (index + length).toNat else min index.toNat length

/-- A text of one character. -/
def ofChar (c : Char) : Value :=
  .text (String.ofList [c])

namespace Heap

/-- The items that a loop visits: the elements of a list or the characters of a text. -/
def items (heap : Heap) : Value → Except Fault (List Value)
  | .list id => .ok (heap.list id)
  | .text s => .ok (s.toList.map ofChar)
  | value => .error (.notIterable (heap.typeName value))

/-- The number of elements or characters. -/
def length (heap : Heap) : Value → Except Fault Nat
  | .list id => .ok (heap.list id).length
  | .text s => .ok s.length
  | value => .error (.noLength (heap.typeName value))

/-- The element of a list or the character of a text at a position. -/
def element (heap : Heap) (value index : Value) : Except Fault Value :=
  match index with
  | .int i =>
      let at? (items : List Value) : Except Fault Value :=
        match (place? items.length i.toInt).bind fun place => items[place]? with
        | some item => .ok item
        | none => .error (.indexOutOfRange i.toInt)
      match value with
      | .list id => at? (heap.list id)
      | .text s => at? (s.toList.map ofChar)
      | value => .error (.notSubscriptable (heap.typeName value))
  | index => .error (.indexType (heap.typeName value) (heap.typeName index))

end Heap

end Data
end Scripting
