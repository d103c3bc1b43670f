import Scripting.Data.Display
import Scripting.Data.Fault
import Scripting.Data.Indexing
import Scripting.Number.Reading
import Scripting.Number.Remainder
import Scripting.Text.Blank

namespace Scripting
namespace Data

/-!
Conversions between numbers, texts and lists.
-/

/-- A text as numbers are read from it: without blanks around it and underscores in it. -/
def numeralOf (text : String) : List Char :=
  (Text.trimBlanks text.toList).filter (· ≠ '_')

/-- The whole part of a floating-point number, if it is in the range of integers. -/
def wholePart? (x : Float) : Option Int64 :=
  let whole := Number.truncate x
  let limit : Float := 9223372036854775808.0
  if whole.isFinite && -limit ≤ whole && whole < limit then some whole.toInt64 else none

namespace Heap

/-- Conversion to an integer: numbers lose their fraction, texts are read. -/
def toInt (heap : Heap) : Value → Except Fault Value
  | .int n => .ok (.int n)
  | .float x =>
      match wholePart? x with
      | some n => .ok (.int n)
      | none => .error (.floatToInt x)
  | .text s =>
      match Number.readInt? (numeralOf s) with
      | some n => .ok (.int n)
      | none => .error (.invalidLiteral .toInt s)
  | value => .error (.notConvertible .toInt (heap.typeName value))

/-- Conversion to a floating-point number. -/
def toFloat (heap : Heap) : Value → Except Fault Value
  | .int n => .ok (.float (Number.ofInteger n))
  | .float x => .ok (.float x)
  | .text s =>
      match Number.readFloat? (numeralOf s) with
      | some x => .ok (.float x)
      | none => .error (.invalidLiteral .toFloat s)
  | value => .error (.notConvertible .toFloat (heap.typeName value))

/-- The elements of the list that a value is converted to. -/
def toItems (heap : Heap) : Value → Except Fault (List Value)
  | .list id => .ok (heap.list id)
  | .text s => .ok (s.toList.map ofChar)
  | value => .error (.notConvertible .toList (heap.typeName value))

end Heap

end Data
end Scripting
