import Scripting.Number.Bounded

namespace Scripting
namespace Number

/-!
Division of integers of sixty-four bits.

The machine divides toward zero.  Division rounded down corrects its results where
the signs differ and the division leaves a remainder.
-/

/-- The quotient rounded toward zero, if there is one in range. -/
def quotient? (a b : Int64) : Option Int64 :=
  if b = 0 then none else fit? (a.toInt.tdiv b.toInt)

/-- Whether rounding down differs from rounding toward zero. -/
def roundsAway (a b : Int64) : Bool :=
  a % b ≠ 0 && (a < 0) != (b < 0)

/-- The quotient rounded down, if there is one in range. -/
def floorQuotient? (a b : Int64) : Option Int64 :=
  (quotient? a b).map fun quotient => if roundsAway a b then quotient - 1 else quotient

/-- Whether a remainder has the other sign than the divisor. -/
def missesSign (rest b : Int64) : Bool :=
  rest ≠ 0 && (rest < 0) != (b < 0)

/-- The remainder with the sign of the divisor. -/
def floorRemainder (a b : Int64) : Int64 :=
  let rest := a % b
  if missesSign rest b then rest + b else rest

end Number
end Scripting
