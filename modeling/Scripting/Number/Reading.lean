import Scripting.Number.Bounded
import Scripting.Number.Binary64

namespace Scripting
namespace Number

/-!
Numbers read from text.

A text is a number only as a whole: an optional sign, digits, and for
floating-point numbers a fraction and an exponent.
-/

/-- Take an optional sign off a text; the answer says whether it was a minus. -/
def takeSign : List Char → Bool × List Char
  | '-' :: rest => (true, rest)
  | '+' :: rest => (false, rest)
  | rest => (false, rest)

/-- An integer: a sign or none, then at least one digit, in the range of the type. -/
def readInt? (text : List Char) : Option Int64 :=
  let (negative, digits) := takeSign text
  if digits.isEmpty || !digits.all (isDigitOf 10) then none
  else
    let magnitude := Int.ofNat (textValue 10 digits)
    fit? (if negative then -magnitude else magnitude)

/--
The floating-point number nearest to `digits * 10 ^ exponent`, where `length`
bounds the number of digits.  Exponents far outside the range of the type are
answered without computing the power.
-/
def decimalToFloat (negative : Bool) (digits length : Nat) (exponent : Int) : Float :=
  if digits = 0 then nearest negative 0 1
  else if 400 < exponent then infinity negative
  else if exponent + Int.ofNat length < -400 then nearest negative 0 1
  else
    match exponent with
    | .ofNat n => nearest negative (digits * Nat.pow 10 n) 1
    | .negSucc n => nearest negative digits (Nat.pow 10 (n + 1))

/-- From this size on an exponent takes in no more digits. -/
def exponentLimit : Nat := 65536

/--
The size of an exponent.  Digits after the limit has been reached do not count:
such an exponent leaves the range of the type whatever they are, unless tens of
thousands of zeros stand before it.
-/
def exponentSize (digits : List Char) : Nat :=
  digits.foldl
    (fun size c => if size < exponentLimit then 10 * size + (digit? c).getD 0 else size) 0

/-- An exponent after its letter: a sign or none and at least one digit. -/
def readExponent? (text : List Char) : Option Int :=
  let (negative, digits) := takeSign text
  if digits.isEmpty || !digits.all (isDigitOf 10) then none
  else
    let magnitude := Int.ofNat (exponentSize digits)
    some (if negative then -magnitude else magnitude)

/-- An unsigned decimal: digits with an optional point, then an optional exponent. -/
def readDecimal? (negative : Bool) (text : List Char) : Option Float :=
  let whole := text.takeWhile (isDigitOf 10)
  let afterWhole := text.dropWhile (isDigitOf 10)
  let (fraction, afterFraction) :=
    match afterWhole with
    | '.' :: rest => (rest.takeWhile (isDigitOf 10), rest.dropWhile (isDigitOf 10))
    | rest => ([], rest)
  let digits := whole ++ fraction
  if digits.isEmpty then none
  else
    let exponent? :=
      match afterFraction with
      | [] => some 0
      | letter :: rest => if letter = 'e' ∨ letter = 'E' then readExponent? rest else none
    exponent?.map fun exponent =>
      decimalToFloat negative (textValue 10 digits) digits.length
        (exponent - Int.ofNat fraction.length)

/-- A floating-point number, an infinity or the value that is not a number. -/
def readFloat? (text : List Char) : Option Float :=
  let (negative, unsigned) := takeSign text
  let word := String.ofList (unsigned.map Char.toLower)
  if word = "inf" ∨ word = "infinity" then some (infinity negative)
  else if word = "nan" then
    some (Float.ofBits (if negative then 0xFFF8000000000000 else 0x7FF8000000000000))
  else readDecimal? negative unsigned

end Number
end Scripting
