import Scripting.Number.Shortest

namespace Scripting
namespace Number

/-!
The text of numbers.

Integers are written in base ten with a minus sign.  Floating-point numbers are
written by their shortest digits, positionally in a middle range of magnitudes
and with an exponent outside it.
-/

/-- How floating-point numbers are laid out. -/
structure FloatFormat where
  /-- The decimal point is written at this many places left of the digits at most. -/
  leftmost : Int
  /-- The decimal point is written at this many places from the first digit at most. -/
  rightmost : Int
  infinity : String
  nan : String

/--
Numbers from `10 ^ (-4)` on and below `10 ^ 16` are positional and always show a
fractional digit; an exponent is written without padding and without a plus sign.
-/
def floatFormat : FloatFormat where
  leftmost := -3
  rightmost := 16
  infinity := "inf"
  nan := "NaN"

/-- The digits of a decimal with the point after the first `point` of them. -/
def positional (digits : List Char) (point : Int) : List Char :=
  if point ≤ 0 then
    ['0', '.'] ++ List.replicate (-point).toNat '0' ++ digits
  else
    let whole := point.toNat
    if whole < digits.length then digits.take whole ++ ['.'] ++ digits.drop whole
    else digits ++ List.replicate (whole - digits.length) '0' ++ ['.', '0']

/-- One digit, the rest of the digits after a point if there are any, and the exponent. -/
def scientific (digits : List Char) (exponent : Int) : List Char :=
  let mantissa :=
    match digits with
    | [] => []
    | [digit] => [digit]
    | digit :: rest => digit :: '.' :: rest
  mantissa ++ ['e'] ++ (toString exponent).toList

/-- The text of a positive decimal. -/
def FloatFormat.writeDecimal (format : FloatFormat) (decimal : Decimal) : List Char :=
  let digits := Nat.toDigits 10 decimal.digits
  let point := Int.ofNat digits.length + decimal.exponent
  if format.leftmost ≤ point ∧ point ≤ format.rightmost then positional digits point
  else scientific digits (point - 1)

/-- The text of a floating-point number; a zero keeps its sign. -/
def FloatFormat.write (format : FloatFormat) (x : Float) : String :=
  match unpack x with
  | .nan => format.nan
  | .infinite negative => (if negative then "-" else "") ++ format.infinity
  | .finite negative mantissa exponent =>
      let text :=
        if mantissa = 0 then ['0', '.', '0']
        else format.writeDecimal (shortest mantissa exponent)
      (if negative then "-" else "") ++ String.ofList text

/-- The text of a floating-point number. -/
def writeFloat (x : Float) : String :=
  floatFormat.write x

/-- The text of an integer. -/
def writeInt (n : Int64) : String :=
  toString n.toInt

end Number
end Scripting
