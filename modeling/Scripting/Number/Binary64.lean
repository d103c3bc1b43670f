namespace Scripting
namespace Number

/-!
Floating-point numbers as exact multiples of powers of two.

Reading, writing and the remainder of floating-point numbers are defined on
exact integers, so each of them starts by taking a number apart and ends by
rounding an exact quotient to the nearest number there is.
-/

/-- A floating-point number taken apart; a finite one is `mantissa * 2 ^ exponent`. -/
inductive Unpacked where
  | nan
  | infinite (negative : Bool)
  | finite (negative : Bool) (mantissa : Nat) (exponent : Int)

/-- The exponent of the smallest step between two numbers. -/
def minExponent : Int := -1074

/-- How many fractions there are: two to the power of fifty-two. -/
def fractionCount : Nat := 4503599627370496

/-- The weight of the sign among the bits of a number: two to the power of sixty-three. -/
def signWeight : Nat := 9223372036854775808

/-- How many exponent fields there are: two to the power of eleven. -/
def exponentCount : Nat := 2048

/-- Take a number apart by its sign, exponent and fraction fields. -/
def unpack (x : Float) : Unpacked :=
  let bits := x.toBits.toNat
  let negative := signWeight ≤ bits
  let biased := bits / fractionCount % exponentCount
  let fraction := bits % fractionCount
  if biased = 2047 then
    if fraction = 0 then .infinite negative else .nan
  else if biased = 0 then .finite negative fraction minExponent
  else .finite negative (fractionCount + fraction) (Int.ofNat biased - 1075)

/-- The number with the given sign, exponent field and fraction field. -/
def pack (negative : Bool) (biased fraction : Nat) : Float :=
  Float.ofBits (UInt64.ofNat
    ((if negative then signWeight else 0) + biased * fractionCount + fraction))

/-- An infinity of the given sign. -/
def infinity (negative : Bool) : Float :=
  pack negative 2047 0

/-- A quotient rounded to the nearest integer, an exact half to the even neighbour. -/
def roundHalfEven (numerator denominator : Nat) : Nat :=
  let quotient := numerator / denominator
  let rest := 2 * (numerator % denominator)
  if rest < denominator then quotient
  else if denominator < rest then quotient + 1
  else if quotient % 2 = 0 then quotient
  else quotient + 1

/-- The numerator and denominator of a quotient divided by a power of two. -/
def scaleDown (numerator denominator : Nat) (exponent : Int) : Nat × Nat :=
  match exponent with
  | .ofNat n => (numerator, denominator * Nat.pow 2 n)
  | .negSucc n => (numerator * Nat.pow 2 (n + 1), denominator)

/--
The exponent at which a positive quotient has a mantissa of fifty-three bits,
or the smallest exponent there is.  The difference of the lengths of numerator
and denominator is right or one too large.
-/
def mantissaExponent (numerator denominator : Nat) : Int :=
  let guess : Int := Int.ofNat numerator.log2 - Int.ofNat denominator.log2 - 52
  let scaled := scaleDown numerator denominator guess
  let exponent := if scaled.1 < scaled.2 * fractionCount then guess - 1 else guess
  max exponent minExponent

/--
The floating-point number nearest to a quotient of natural numbers, an exact
half going to the even mantissa.  A quotient past the largest number is infinite.
-/
def nearest (negative : Bool) (numerator denominator : Nat) : Float :=
  if numerator = 0 then pack negative 0 0
  else
    let exponent := mantissaExponent numerator denominator
    let scaled := scaleDown numerator denominator exponent
    let mantissa := roundHalfEven scaled.1 scaled.2
    -- A carry past fifty-three bits moves into the exponent field by itself.
    let field := (exponent - minExponent).toNat
    let combined := field * fractionCount + mantissa
    if 2047 * fractionCount ≤ combined then infinity negative
    else pack negative 0 combined

/-- The floating-point number nearest to an integer. -/
def ofInteger (n : Int64) : Float :=
  nearest (n.toInt < 0) n.toInt.natAbs 1

end Number
end Scripting
