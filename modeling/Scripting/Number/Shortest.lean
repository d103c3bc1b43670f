import Scripting.Number.Binary64

namespace Scripting
namespace Number

/-!
The shortest decimal that reads back as a given floating-point number.

A number `m * 2 ^ q` is the nearest one to every decimal in an interval around
it.  The grids of decimals with one, two, three and more digits are searched in
turn for a point in that interval; it is enough to look at the two neighbours of
the number on each grid.
-/

/-- The decimal `digits * 10 ^ exponent`. -/
structure Decimal where
  digits : Nat
  exponent : Int
  deriving DecidableEq, Repr

/-- Powers of a base with an integer exponent, as numerator and denominator. -/
def powerQuotient (base : Nat) : Int → Nat × Nat
  | .ofNat n => (Nat.pow base n, 1)
  | .negSucc n => (1, Nat.pow base (n + 1))

/--
A number with the interval that rounds to it, in units of `2 ^ exponent`.  The
ends belong to the interval when the mantissa is even.
-/
structure Rounding where
  low : Nat
  value : Nat
  high : Nat
  exponent : Int
  closed : Bool

/--
The interval of a positive finite number.  The step below the smallest mantissa
of a binary order is half the step above it.
-/
def roundingOf (mantissa : Nat) (exponent : Int) : Rounding :=
  let narrow := mantissa = fractionCount ∧ minExponent < exponent
  { low := 4 * mantissa - (if narrow then 1 else 2)
    value := 4 * mantissa
    high := 4 * mantissa + 2
    exponent := exponent - 2
    closed := mantissa % 2 = 0 }

/-- The least `e` such that the number is below `10 ^ e`. -/
def Rounding.magnitude (rounding : Rounding) : Int :=
  let (up, down) := powerQuotient 2 rounding.exponent
  let below (e : Int) : Bool :=
    let (ten, unit) := powerQuotient 10 e
    rounding.value * up * unit < ten * down
  let guess := (Int.ofNat rounding.value.log2 + rounding.exponent) * 30103 / 100000
  if below guess then guess else if below (guess + 1) then guess + 1 else guess + 2

/-- Whether a decimal lies in the interval of a number. -/
def Rounding.admits (rounding : Rounding) (decimal : Decimal) : Bool :=
  let (up, down) := powerQuotient 2 rounding.exponent
  let (ten, unit) := powerQuotient 10 decimal.exponent
  let point := decimal.digits * ten * down
  let low := rounding.low * up * unit
  let high := rounding.high * up * unit
  if rounding.closed then low ≤ point && point ≤ high else low < point && point < high

/--
The point of the grid with step `10 ^ exponent` that is nearest to the number
among its two neighbours in the interval.  Of two points at the same distance
the upper one is taken.
-/
def Rounding.onGrid? (rounding : Rounding) (exponent : Int) : Option Decimal :=
  let (up, down) := powerQuotient 2 rounding.exponent
  let (ten, unit) := powerQuotient 10 exponent
  let scaled := rounding.value * up * unit
  let step := ten * down
  let lower : Decimal := ⟨scaled / step, exponent⟩
  let upper : Decimal := ⟨scaled / step + 1, exponent⟩
  match rounding.admits lower, rounding.admits upper with
  | true, true => some (if 2 * (scaled % step) < step then lower else upper)
  | true, false => some lower
  | false, true => some upper
  | false, false => none

/-- Remove the zeros at the end of the digits of a decimal. -/
def Decimal.normalize (decimal : Decimal) : Nat → Decimal
  | 0 => decimal
  | fuel + 1 =>
      if decimal.digits ≠ 0 ∧ decimal.digits % 10 = 0 then
        Decimal.normalize ⟨decimal.digits / 10, decimal.exponent + 1⟩ fuel
      else decimal

/-- Search the grids with `count`, `count + 1` and more digits, at most `fuel` of them. -/
def Rounding.search (rounding : Rounding) (magnitude : Int) : Nat → Nat → Option Decimal
  | _, 0 => none
  | count, fuel + 1 =>
      match rounding.onGrid? (magnitude - Int.ofNat count) with
      | some decimal => some decimal
      | none => rounding.search magnitude (count + 1) fuel

/--
The shortest decimal that reads back as the positive number
`mantissa * 2 ^ exponent`, and of several the nearest.  Seventeen digits always
suffice.
-/
def shortest (mantissa : Nat) (exponent : Int) : Decimal :=
  let rounding := roundingOf mantissa exponent
  match rounding.search rounding.magnitude 1 17 with
  | some decimal => decimal.normalize 20
  | none => ⟨0, 0⟩

end Number
end Scripting
