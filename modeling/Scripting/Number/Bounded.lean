namespace Scripting
namespace Number

/-!
Integers of sixty-four bits.

Arithmetic on integers is carried out exactly and only then brought back into
the range of the type, so a result is either the exact one or there is none.
-/

/--
The integer of sixty-four bits with the given value, if the value is in range.
The bounds are two to the power of sixty-three on either side of zero.
-/
def fit? (n : Int) : Option Int64 :=
  if -9223372036854775808 ≤ n ∧ n < 9223372036854775808 then some (Int64.ofInt n) else none

theorem toInt_of_fit? {n : Int} {word : Int64} (fits : fit? n = some word) :
    word.toInt = n := by
  unfold fit? at fits
  split at fits
  · rename_i range
    have same : Int64.ofInt n = word := Option.some.inj fits
    rw [← same, Int64.toInt_ofInt_of_le (by omega) (by omega)]
  · exact absurd fits (by simp)

theorem fit?_eq_none_iff {n : Int} :
    fit? n = none ↔ n < -9223372036854775808 ∨ 9223372036854775808 ≤ n := by
  unfold fit?
  split <;> simp <;> omega

/-- A product that is multiplied by a factor again and again, as long as it stays in range. -/
def multiply? (factor : Int) : Nat → Int → Option Int64
  | 0, product => fit? product
  | count + 1, product =>
      match fit? (product * factor) with
      | some word => multiply? factor count word.toInt
      | none => none

/-- A power in range; its exponent has to be an integer of thirty-two bits without a sign. -/
def power? (base exponent : Int) : Option Int64 :=
  if exponent < 4294967296 then multiply? base exponent.toNat 1 else none

/-- The value of a string of digits in a given base, most significant first. -/
def digitsValue (base : Nat) (digits : List Nat) : Nat :=
  digits.foldl (fun value digit => base * value + digit) 0

/-- The value of a character as a digit of base sixteen or less. -/
def digit? (c : Char) : Option Nat :=
  if '0' ≤ c ∧ c ≤ '9' then some (c.toNat - '0'.toNat)
  else if 'a' ≤ c ∧ c ≤ 'f' then some (c.toNat - 'a'.toNat + 10)
  else if 'A' ≤ c ∧ c ≤ 'F' then some (c.toNat - 'A'.toNat + 10)
  else none

/-- Whether a character is a digit of the given base, which is at most sixteen. -/
def isDigitOf (base : Nat) (c : Char) : Bool :=
  match digit? c with
  | some digit => digit < base
  | none => false

/-- The value of a text whose characters are digits; other characters count as zero. -/
def textValue (base : Nat) (text : List Char) : Nat :=
  digitsValue base (text.map fun c => (digit? c).getD 0)

end Number
end Scripting
