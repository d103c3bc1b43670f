import Scripting.Lexical.Trivia
import Scripting.Number.Bounded

namespace Scripting
namespace Lexical

/-!
String literals.

A literal stands between quotes of one of three styles.  Inside it a backslash
starts an escape, unless escapes are switched off; a backslash that starts no
known escape stands for itself.
-/

/-- The quote that closes a literal opened by the given character. -/
def closingQuote? (c : Char) : Option Char :=
  if c = '"' ∨ c = '\'' then some c
  else if c = '«' then some '»'
  else none

/-- Escapes of one character after the backslash. -/
def simpleEscape? (c : Char) : Option Char :=
  if c = 'n' then some '\n'
  else if c = 't' then some '\t'
  else if c = 'r' then some '\r'
  else if c = '0' then some '\x00'
  else if c = '\\' ∨ c = '"' ∨ c = '\'' ∨ c = '«' ∨ c = '»' then some c
  else none

/-- The number of digits of an escape by code point. -/
def hexEscapeDigits? (letter : Char) : Option Nat :=
  if letter = 'x' then some 2
  else if letter = 'u' then some 4
  else if letter = 'U' then some 8
  else none

/--
An escape by code point: exactly `count` digits after its letter, naming a
Unicode scalar value.  Lengths and faults count from the letter and the
backslash before it, respectively.
-/
def readHexEscape (count : Nat) (letter : Char) (rest : List Char) :
    Except Fault (Char × Nat) :=
  let digits := (rest.take count).takeWhile (Number.isDigitOf 16)
  if digits.length < count then
    .error ⟨.missingHexDigits count letter, 0, 2 + digits.length⟩
  else
    let value := Number.textValue 16 digits
    if value.isValidChar then .ok (Char.ofNat value, 1 + count)
    else .error ⟨.notACharacter digits, 0, 2 + count⟩

/-- An escape by name, between curly brackets on one line. -/
def readNamedEscape (rest : List Char) : Except Fault (Char × Nat) :=
  match rest with
  | '\x7b' :: afterBracket =>
      let name := afterBracket.takeWhile fun c => c ≠ '\x7d' && c ≠ '\n'
      match afterBracket.drop name.length with
      | '\x7d' :: _ =>
          match Text.named? (String.ofList name) with
          | some c => .ok (c, 3 + name.length)
          | none => .error ⟨.unknownCharacterName (String.ofList name), 0, 4 + name.length⟩
      | _ => .error ⟨.nameNotClosed, 0, 3 + name.length⟩
  | _ => .error ⟨.nameNotOpened, 0, 2⟩

/--
The escape whose backslash stands just before the given text: the character it
stands for and the number of characters after the backslash.  Nothing when the
backslash stands for itself.
-/
def readEscape (rest : List Char) : Except Fault (Option (Char × Nat)) :=
  match rest with
  | [] => .ok none
  | letter :: afterLetter =>
      match simpleEscape? letter with
      | some c => .ok (some (c, 1))
      | none =>
          match hexEscapeDigits? letter with
          | some count => (readHexEscape count letter afterLetter).map some
          | none =>
              if letter = 'N' then (readNamedEscape afterLetter).map some
              else .ok none

/-- What can be wrong inside a literal. -/
inductive BodyFault where
  | unclosed
  | escape (fault : Fault)

/-- One more character in front of a literal's body, standing for the given ones. -/
def extendBody (decoded : List Char) :
    Except BodyFault (List Char × Nat) → Except BodyFault (List Char × Nat)
  | .ok (text, length) => .ok (decoded ++ text, length + 1)
  | .error .unclosed => .error .unclosed
  | .error (.escape fault) => .error (.escape (fault.later 1))

/--
The text of a literal after its opening quote and the number of characters up to
and including the closing one.  The first argument counts characters that belong
to an escape already decoded.
-/
def readBody (closing : Char) (escapes : Bool) :
    Nat → List Char → Except BodyFault (List Char × Nat)
  | _, [] => .error .unclosed
  | inside + 1, _ :: rest => extendBody [] (readBody closing escapes inside rest)
  | 0, c :: rest =>
      if c = closing then .ok ([], 1)
      else if c = '\\' ∧ escapes = true then
        match readEscape rest with
        | .error fault => .error (.escape fault)
        | .ok (some (decoded, length)) =>
            extendBody [decoded] (readBody closing escapes length rest)
        | .ok none => extendBody ['\\'] (readBody closing escapes 0 rest)
      else extendBody [c] (readBody closing escapes 0 rest)

/-- The string literal at the head of a text that starts with a quote. -/
def readLiteral (escapes : Bool) (rest : List Char) : Except Fault (List Char × Nat) :=
  match rest with
  | [] => .ok ([], 0)
  | opening :: body =>
      let closing := (closingQuote? opening).getD opening
      match readBody closing escapes 0 body with
      | .ok (text, length) => .ok (text, length + 1)
      | .error .unclosed => .error ⟨.unterminatedString closing, 0, 1⟩
      | .error (.escape fault) => .error (fault.later 1)

/-- Whether a string literal starts at the head of a text. -/
def opensLiteral : List Char → Bool
  | c :: _ => (closingQuote? c).isSome
  | [] => false

/--
The string literals at the head of a text, read as one when only trivia stands
between them.  Each literal covers at least one character, so the number of
characters bounds the number of literals.
-/
def readLiterals (escapes : Bool) : Nat → List Char → Except Fault (List Char × Nat)
  | 0, rest => readLiteral escapes rest
  | more + 1, rest =>
      match readLiteral escapes rest with
      | .error fault => .error fault
      | .ok (text, length) =>
          let gap := triviaLength (rest.drop length)
          let next := rest.drop (length + gap)
          if opensLiteral next then
            match readLiterals escapes more next with
            | .error fault => .error (fault.later (length + gap))
            | .ok (following, covered) => .ok (text ++ following, length + gap + covered)
          else .ok (text, length)

end Lexical
end Scripting
