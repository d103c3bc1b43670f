import Scripting.Lexical.Fault
import Scripting.Lexical.Token
import Scripting.Number.Reading
import Scripting.Text.Letters

namespace Scripting
namespace Lexical

/-!
Number literals.

Integers are written in base ten or, after a prefix, in base sixteen, eight or
two; a decimal literal with a point is a floating-point number.  Underscores may
separate the digits.  A decimal literal may be followed at once by a power of ten,
which makes tokens of its own.
-/

/-- Consecutive characters of a text and the token they make, if they make one. -/
structure Part where
  kind : Option TokenKind
  length : Nat

/-- The base that the prefix of a literal announces. -/
def literalBase? : List Char → Option Nat
  | '0' :: letter :: _ =>
      if letter = 'x' ∨ letter = 'X' then some 16
      else if letter = 'o' ∨ letter = 'O' then some 8
      else if letter = 'b' ∨ letter = 'B' then some 2
      else none
  | _ => none

/-- The digits of a base and the underscores at the head of a text. -/
def digitRun (base : Nat) (rest : List Char) : List Char :=
  rest.takeWhile fun c => c = '_' || Number.isDigitOf base c

/-- The digits of a run without the underscores between them. -/
def digitsOf (run : List Char) : List Char :=
  run.filter (· ≠ '_')

/-- A token for an integer literal of the given digits and length. -/
def integerPart (base : Nat) (digits : List Char) (length : Nat) : Except Fault Part :=
  (Number.fit? (Int.ofNat (Number.textValue base digits))).elim
    (.error ⟨.integerTooLarge, 0, length⟩) fun value => .ok ⟨some (.int value), length⟩

/-- An integer literal after a two-character prefix. -/
def readPrefixed (base : Nat) (rest : List Char) : Except Fault Part :=
  let run := digitRun base (rest.drop 2)
  let length := 2 + run.length
  let fraction : Bool :=
    match rest.drop length with
    | '.' :: c :: _ => Number.isDigitOf base c
    | _ => false
  if fraction then .error ⟨.fractionInBase base, 0, length + 1⟩
  else if (digitsOf run).isEmpty then .error ⟨.missingDigits base, 0, length⟩
  else integerPart base (digitsOf run) length

/-- A decimal literal; with a point it is a floating-point number. -/
def readDecimal (rest : List Char) : Except Fault Part :=
  let whole := digitRun 10 rest
  match rest.drop whole.length with
  | '.' :: afterPoint =>
      let fraction := digitRun 10 afterPoint
      let length := whole.length + 1 + fraction.length
      match afterPoint.drop fraction.length with
      | '.' :: _ => .error ⟨.secondDot, 0, length + 1⟩
      | _ =>
          let digits := digitsOf whole ++ digitsOf fraction
          let value := Number.decimalToFloat false (Number.textValue 10 digits) digits.length
            (-Int.ofNat (digitsOf fraction).length)
          .ok ⟨some (.float value), length⟩
  | _ => integerPart 10 (digitsOf whole) whole.length

/--
The power of ten at the head of a text: its letter followed by digits, or the
letter alone when a signed number follows.  Any other word that starts with the
letter is left to be read as a word.
-/
def readPowerOfTen (rest : List Char) : Except Fault (List Part) :=
  match rest with
  | letter :: afterLetter =>
      if letter = 'e' ∨ letter = 'E' then
        let run := afterLetter.takeWhile Text.isIdentifierPart
        if !run.isEmpty && run.all (Number.isDigitOf 10) then
          match integerPart 10 run run.length with
          | .ok digits => .ok [⟨some .exponent, 1⟩, digits]
          | .error fault => .error (fault.later 1)
        else
          match afterLetter with
          | sign :: digit :: _ =>
              if (sign = '+' ∨ sign = '-') ∧ Number.isDigitOf 10 digit = true then
                .ok [⟨some .exponent, 1⟩]
              else .ok []
          | _ => .ok []
      else .ok []
  | [] => .ok []

/-- The number literal at the head of a text that starts with a digit. -/
def readNumber (powers : Bool) (rest : List Char) : Except Fault (List Part) :=
  match literalBase? rest with
  | some base => (readPrefixed base rest).map fun part => [part]
  | none =>
      match readDecimal rest with
      | .error fault => .error fault
      | .ok part =>
          if powers then
            match readPowerOfTen (rest.drop part.length) with
            | .ok parts => .ok (part :: parts)
            | .error fault => .error (fault.later part.length)
          else .ok [part]

end Lexical
end Scripting
