import Scripting.Data.Display
import Scripting.Data.Fault

namespace Scripting
namespace Data

/-!
Equality and order of values.

Numbers are equal across the two number types when they are equal as
floating-point numbers; lists are equal when their elements are.  Everything
else with an identity is equal only to itself.  Order is defined between numbers
and between texts.
-/

open Program (CompareOp)

/-- Whether two lists have the same length and elements equal in the given sense. -/
def sameElements (same : Value → Value → Bool) : List Value → List Value → Bool
  | [], [] => true
  | left :: lefts, right :: rights => same left right && sameElements same lefts rights
  | _, _ => false

/-- Equality of values that are not both lists. -/
def sameAtom : Value → Value → Bool
  | .float x, .float y => x == y
  | .int n, .float x => Number.ofInteger n == x
  | .float x, .int n => Number.ofInteger n == x
  | left, right => left = right

namespace Heap

/-- Equality of values, down to a given depth of lists inside lists. -/
def equalWithin (heap : Heap) : Nat → Value → Value → Bool
  | depth + 1, .list left, .list right =>
      left = right || sameElements (heap.equalWithin depth) (heap.list left) (heap.list right)
  | _, left, right => sameAtom left right

/--
Equality of values.  There are no more pairs of lists than the depth allows for, so
deeper down a pair would be compared on account of itself, which goes on for ever.
Such values do not count as equal.
-/
def equal (heap : Heap) (left right : Value) : Bool :=
  heap.equalWithin (heap.lists.size * heap.lists.size + 1) left right

end Heap

/-- The order of two floating-point numbers; one that is not a number has none. -/
def floatOrder? (x y : Float) : Option Ordering :=
  if x < y then some .lt
  else if x == y then some .eq
  else if y < x then some .gt
  else none

/-- The order of two texts, by the code points of their characters. -/
def textOrder (left right : String) : Ordering :=
  if left < right then .lt else if left = right then .eq else .gt

/-- Whether an order satisfies a comparison. -/
def satisfies (op : CompareOp) (order : Ordering) : Bool :=
  match op with
  | .eq => order = .eq
  | .ne => order ≠ .eq
  | .lt => order = .lt
  | .gt => order = .gt
  | .le => order ≠ .gt
  | .ge => order ≠ .lt

namespace Heap

/-- The order of two values; nothing for numbers without order. -/
def order? (heap : Heap) (op : CompareOp) (left right : Value) : Except Fault (Option Ordering) :=
  match left, right with
  | .int a, .int b => .ok (some (compare a.toInt b.toInt))
  | .text a, .text b => .ok (some (textOrder a b))
  | left, right =>
      match left.toFloat?, right.toFloat? with
      | some x, some y => .ok (floatOrder? x y)
      | _, _ => .error (.incomparable op (heap.typeName left) (heap.typeName right))

/-- A comparison of two values; without an order none but inequality holds. -/
def compare (heap : Heap) (op : CompareOp) (left right : Value) : Except Fault Bool :=
  match op with
  | .eq => .ok (heap.equal left right)
  | .ne => .ok (!heap.equal left right)
  | op => (heap.order? op left right).map fun order =>
      match order with
      | some order => satisfies op order
      | none => false

end Heap

end Data
end Scripting
