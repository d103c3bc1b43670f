import Scripting.Number.Binary64

namespace Scripting
namespace Number

/-!
Truncation and remainder of floating-point numbers.

Both results are exact: the remainder of two multiples of a power of two is
again a multiple of it and no larger than the divisor.
-/

/-- The whole part of a number, rounded toward zero. -/
def truncate (x : Float) : Float :=
  if x < 0 then x.ceil else x.floor

/--
The remainder of a division rounded toward zero.  It has the sign of the
dividend, also when it is zero; an infinite divisor leaves the dividend as it is.
-/
def remainder (x y : Float) : Float :=
  match unpack x, unpack y with
  | .finite negative mantissa exponent, .finite _ divisor divisorExponent =>
      if divisor = 0 then Float.ofBits 0x7FF8000000000000
      else
        let common := min exponent divisorExponent
        let scaled := mantissa * Nat.pow 2 (exponent - common).toNat
        let scaledDivisor := divisor * Nat.pow 2 (divisorExponent - common).toNat
        let rest := scaled % scaledDivisor
        match common with
        | .ofNat n => nearest negative (rest * Nat.pow 2 n) 1
        | .negSucc n => nearest negative rest (Nat.pow 2 (n + 1))
  | .finite .., .infinite _ => x
  | _, _ => Float.ofBits 0x7FF8000000000000

end Number
end Scripting
