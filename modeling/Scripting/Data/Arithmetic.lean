import Scripting.Data.Display
import Scripting.Data.Fault
import Scripting.Data.Indexing
import Scripting.Number.Division
import Scripting.Number.Remainder

namespace Scripting
namespace Data

/-!
Operators.

Integer arithmetic is exact or fails.  As soon as one operand is a floating-point
number the operation is carried out on floating-point numbers, and fails only if
finite operands give an infinite result.  Operators read the heap and never change
it: where the result is a list, its elements are given and the list is yet to be
created.  A list may be too large to be created at all.
-/

open Program (BinaryOp UnaryOp)

/-- The largest size of a text or a list, one less than two to the power of sixty-three. -/
def sizeLimit : Nat := 9223372036854775807

/-- The bytes that a list takes for each of its elements. -/
def elementSize : Nat := 24

/-- A list repeated so often that the memory for it cannot be addressed. -/
structure Overgrowth where
  length : Nat
  times : Nat
  beyond : sizeLimit < length * times * elementSize

/-- The result of an operator: a value, or the elements of a new list. -/
inductive Product where
  | value (value : Value)
  | list (items : List Value)
  /-- A list that cannot be created, which breaks off the interpreter. -/
  | overgrown (overgrowth : Overgrowth)

/-- An integer as a result, if it could be represented. -/
def checked (op : BinaryOp) : Option Int64 → Except Fault Product
  | some word => .ok (.value (.int word))
  | none => .error (.tooLarge op.spelling)

/-- An exact result in the range of integers. -/
def exact (op : BinaryOp) (n : Int) : Except Fault Product :=
  checked op (Number.fit? n)

/-- A floating-point result; finite operands must not make it infinite. -/
def finite (op : BinaryOp) (x y result : Float) : Except Fault Product :=
  if result.isInf && x.isFinite && y.isFinite then .error (.tooLarge op.spelling)
  else .ok (.value (.float result))

/-- How often something of the given size is repeated; a negative count means never. -/
def repetitions (size : Nat) (count : Int64) : Except Fault Nat :=
  let times := count.toInt.toNat
  if size * times ≤ sizeLimit then .ok times else .error .repetitionTooLong

/-- A text repeated; its size is counted in bytes. -/
def repeatText (text : String) (count : Int64) : Except Fault Product :=
  (repetitions text.utf8ByteSize count).map fun times =>
    .value (.text (if text.isEmpty then "" else String.join (List.replicate times text)))

/--
The elements of a list repeated.  Only their number is checked, but the memory for
them is reserved at once.
-/
def repeatItems (items : List Value) (count : Int64) : Except Fault Product :=
  (repetitions items.length count).map fun times =>
    if beyond : sizeLimit < items.length * times * elementSize then
      .overgrown ⟨items.length, times, beyond⟩
    else .list (if items.isEmpty then [] else (List.replicate times items).flatten)

/-- The power of an integer with an exponent that is not negative. -/
def integerPower (base exponent : Int) : Except Fault Product :=
  if base = 0 ∨ base = 1 then exact .pow (if exponent = 0 then 1 else base)
  else if base = -1 then exact .pow (if exponent % 2 = 0 then 1 else -1)
  else checked .pow (Number.power? base exponent)

/-- An integer times a power of ten, which has to be in range itself. -/
def integerScale (base exponent : Int) : Except Fault Product :=
  checked .scale ((Number.power? 10 exponent).bind fun scale => Number.fit? (base * scale.toInt))

namespace Heap

/-- The fault of an operator that is not defined for its operands. -/
def unsupported (heap : Heap) (op : BinaryOp) (left right : Value) : Fault :=
  .unsupportedOperands op (heap.typeName left) (heap.typeName right)

/-- Both operands as floating-point numbers. -/
def floatOperands (heap : Heap) (op : BinaryOp) (left right : Value) :
    Except Fault (Float × Float) :=
  match left.toFloat?, right.toFloat? with
  | some x, some y => .ok (x, y)
  | _, _ => .error (heap.unsupported op left right)

/-- An operation on two floating-point numbers. -/
def floatOperation (heap : Heap) (op : BinaryOp) (compute : Float → Float → Float)
    (left right : Value) : Except Fault Product := do
  let (x, y) ← heap.floatOperands op left right
  finite op x y (compute x y)

/-- Sum of numbers, concatenation of texts, or a list with one more element. -/
def add (heap : Heap) (left right : Value) : Except Fault Product :=
  match left, right with
  | .int a, .int b => exact .add (a.toInt + b.toInt)
  | .text a, .text b => .ok (.value (.text (a ++ b)))
  | .list id, item => .ok (.list (heap.list id ++ [item]))
  | left, right => heap.floatOperation .add (· + ·) left right

/-- Difference of numbers, or a list without the element at a position. -/
def sub (heap : Heap) (left right : Value) : Except Fault Product :=
  match left, right with
  | .int a, .int b => exact .sub (a.toInt - b.toInt)
  | .list id, .int index =>
      let items := heap.list id
      match place? items.length index.toInt with
      | some place => .ok (.list (items.eraseIdx place))
      | none => .error (.indexOutOfRange index.toInt)
  | left, right => heap.floatOperation .sub (· - ·) left right

/-- Product of numbers, repetition of a text or a list, or concatenation of lists. -/
def mul (heap : Heap) (left right : Value) : Except Fault Product :=
  match left, right with
  | .int a, .int b => exact .mul (a.toInt * b.toInt)
  | .text s, .int n => repeatText s n
  | .int n, .text s => repeatText s n
  | .list a, .list b => .ok (.list (heap.list a ++ heap.list b))
  | .list id, .int n => repeatItems (heap.list id) n
  | .int n, .list id => repeatItems (heap.list id) n
  | left, right => heap.floatOperation .mul (· * ·) left right

/-- Quotient of numbers, always a floating-point number. -/
def div (heap : Heap) (left right : Value) : Except Fault Product := do
  let (x, y) ← heap.floatOperands .div left right
  if y == 0 then .error .divisionByZero else finite .div x y (x / y)

/-- Quotient rounded down. -/
def floorDiv (heap : Heap) (left right : Value) : Except Fault Product :=
  match left, right with
  | .int a, .int b =>
      if b = 0 then .error .integerDivisionByZero
      else checked .floorDiv (Number.floorQuotient? a b)
  | left, right => do
      let (x, y) ← heap.floatOperands .floorDiv left right
      if y == 0 then .error .integerDivisionByZero else finite .floorDiv x y (x / y).floor

/-- Remainder with the sign of the divisor. -/
def mod (heap : Heap) (left right : Value) : Except Fault Product :=
  match left, right with
  | .int a, .int b =>
      if b = 0 then .error .moduloByZero else .ok (.value (.int (Number.floorRemainder a b)))
  | left, right => do
      let (x, y) ← heap.floatOperands .mod left right
      if y == 0 then .error .moduloByZero
      else
        let rest := Number.remainder x y
        let result := if rest != 0 && (rest < 0) != (y < 0) then rest + y else rest
        .ok (.value (.float result))

/-- Power of floating-point numbers; it may leave the real numbers. -/
def floatPower (x y : Float) : Except Fault Product :=
  if x == 0 && y < 0 then .error .zeroToNegativePower
  else
    let result := x.pow y
    if result.isNaN && !x.isNaN && !y.isNaN then .error .mathDomain
    else finite .pow x y result

/-- Power, of integers when the exponent is an integer that is not negative. -/
def pow (heap : Heap) (left right : Value) : Except Fault Product :=
  match left, right with
  | .int a, .int b =>
      if 0 ≤ b.toInt then integerPower a.toInt b.toInt
      else if a = 0 then .error .zeroToNegativePower
      else floatPower (Number.ofInteger a) (Number.ofInteger b)
  | left, right => do
      let (x, y) ← heap.floatOperands .pow left right
      floatPower x y

/-- The left operand times ten to the power of the right one. -/
def scale (heap : Heap) (left right : Value) : Except Fault Product :=
  match left, right with
  | .int a, .int b =>
      if 0 ≤ b.toInt then integerScale a.toInt b.toInt
      else
        let x := Number.ofInteger a
        let y := Number.ofInteger b
        finite .scale x y (x * Float.pow 10 y)
  | left, right => do
      let (x, y) ← heap.floatOperands .scale left right
      finite .scale x y (x * Float.pow 10 y)

/-- An operation on the bits of two integers. -/
def bitwise (heap : Heap) (op : BinaryOp) (compute : Int64 → Int64 → Int64)
    (left right : Value) : Except Fault Product :=
  match left, right with
  | .int a, .int b => .ok (.value (.int (compute a b)))
  | left, right => .error (heap.unsupported op left right)

/-- Apply an operator to two operands that have both been evaluated. -/
def binary (heap : Heap) (op : BinaryOp) (left right : Value) : Except Fault Product :=
  match op with
  | .add => heap.add left right
  | .sub => heap.sub left right
  | .mul => heap.mul left right
  | .div => heap.div left right
  | .floorDiv => heap.floorDiv left right
  | .mod => heap.mod left right
  | .pow => heap.pow left right
  | .scale => heap.scale left right
  | .bitOr => heap.bitwise .bitOr (· ||| ·) left right
  | .bitAnd => heap.bitwise .bitAnd (· &&& ·) left right
  | .bitXor => heap.bitwise .bitXor (· ^^^ ·) left right
  | .and => .ok (.value (.ofBool (heap.isTruthy left && heap.isTruthy right)))
  | .or => .ok (.value (.ofBool (heap.isTruthy left || heap.isTruthy right)))
  | .xor => .ok (.value (.ofBool (heap.isTruthy left != heap.isTruthy right)))

/-- Apply an operator to one operand. -/
def unary (heap : Heap) (op : UnaryOp) (operand : Value) : Except Fault Value :=
  match op, operand with
  | .not, value => .ok (.ofBool (!heap.isTruthy value))
  | .neg, .int n =>
      match Number.fit? (-n.toInt) with
      | some word => .ok (.int word)
      | none => .error (.tooLarge UnaryOp.neg.spelling)
  | .neg, .float x => .ok (.float (-x))
  | .pos, .int n => .ok (.int n)
  | .pos, .float x => .ok (.float x)
  | .bitNot, .int n => .ok (.int (~~~n))
  | op, value => .error (.badOperand op (heap.typeName value))

end Heap

end Data
end Scripting
