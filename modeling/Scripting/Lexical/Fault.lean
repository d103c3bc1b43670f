import Scripting.Lexical.Symbol
import Scripting.Source.Position
import Scripting.Text.CharacterName
import Scripting.Text.Quoted

namespace Scripting
namespace Lexical

/-!
What can be wrong with a text before it is a list of tokens.
-/

/-- Why a text cannot be read as tokens. -/
inductive Cause where
  | illegalCharacter (c : Char)
  | unterminatedString (closing : Char)
  | unterminatedComment
  | unclosedBracket (bracket : Bracket)
  | mismatchedBracket (closing opening : Bracket)
  | unmatchedBracket (bracket : Bracket)
  | secondDot
  | fractionInBase (base : Nat)
  | missingDigits (base : Nat)
  | integerTooLarge
  | missingHexDigits (count : Nat) (letter : Char)
  | notACharacter (digits : List Char)
  | nameNotOpened
  | nameNotClosed
  | unknownCharacterName (name : String)
  | directiveTooLate
  | notADirective (word : String)
  | missingSwitchName
  | invalidSwitchValue (value name : String)
  | unknownSwitch (name : String)
  deriving DecidableEq

/-- The name of the kind of error a cause is reported as. -/
def Cause.kind : Cause → String
  | .illegalCharacter _ => "IllegalCharError"
  | .unterminatedString _ => "UnterminatedStringError"
  | .unterminatedComment => "UnterminatedCommentError"
  | .unclosedBracket _ => "UnclosedBracketError"
  | .mismatchedBracket .. | .unmatchedBracket _ => "UnmatchedBracketError"
  | .secondDot | .fractionInBase _ | .missingDigits _ | .integerTooLarge => "SyntaxError"
  | .missingHexDigits .. | .notACharacter _ | .nameNotOpened | .nameNotClosed
  | .unknownCharacterName _ => "InvalidEscapeError"
  | .directiveTooLate | .notADirective _ | .missingSwitchName | .invalidSwitchValue ..
  | .unknownSwitch _ => "MetaError"

/-- A code point in capital digits of base sixteen, at least four of them. -/
def codePoint (c : Char) : String :=
  let digits := (Text.hexDigits c.toNat).map Char.toUpper
  String.ofList (List.replicate (4 - digits.length) '0' ++ digits)

/-- A character by code point and name; one without a name is shown escaped. -/
def describeCharacter (c : Char) : String :=
  match Text.nameOf? c with
  | some name => s!"U+{codePoint c} ({name}) '{c}'"
  | none => s!"U+{codePoint c} '{String.ofList (Text.quotedChar c)}'"

/-- What the report of a cause says. -/
def Cause.message : Cause → String
  | .illegalCharacter c => describeCharacter c
  | .unterminatedString closing => s!"string literal is never closed, expected {closing}"
  | .unterminatedComment => "block comment is never closed, expected '*/'"
  | .unclosedBracket bracket => s!"'{bracket.opening}' was never closed"
  | .mismatchedBracket closing opening =>
      s!"'{closing.closing}' does not match '{opening.opening}'"
  | .unmatchedBracket bracket => s!"unmatched '{bracket.closing}'"
  | .secondDot => "more than one dot in a number"
  | .fractionInBase base => s!"a base-{base} number cannot have a fractional part"
  | .missingDigits base => s!"expected base-{base} digits after the prefix"
  | .integerTooLarge => "integer literal is too large"
  | .missingHexDigits count letter => s!"expected {count} hex digits after '\\{letter}'"
  | .notACharacter digits =>
      "U+" ++ String.ofList (digits.map Char.toUpper) ++ " is not a valid character"
  | .nameNotOpened => "expected '\x7b' after '\\N'"
  | .nameNotClosed => "expected '\x7d' to close '\\N\x7b'"
  | .unknownCharacterName name => s!"unknown Unicode character name '{name}'"
  | .directiveTooLate => "meta directives must come before any other code"
  | .notADirective word => s!"expected 'meta' after '@', found '{word}'"
  | .missingSwitchName => "expected a meta name"
  | .invalidSwitchValue value name => s!"invalid value '{value}' for meta '{name}'"
  | .unknownSwitch name => s!"unknown meta '{name}'"

/-- A cause with the stretch of text that it is found in. -/
structure LexError where
  cause : Cause
  span : Source.Span
  deriving DecidableEq

/--
A cause found by a reader of part of a text, from `start` to `stop` characters
after the place where the reader began.
-/
structure Fault where
  cause : Cause
  start : Nat
  stop : Nat
  deriving DecidableEq

/-- The same fault as seen from a place some characters earlier. -/
def Fault.later (fault : Fault) (offset : Nat) : Fault :=
  { fault with start := fault.start + offset, stop := fault.stop + offset }

/-- The fault of a reader that began at the given place of a text. -/
def Fault.locate (fault : Fault) (position : Source.Position) (rest : List Char) : LexError :=
  { cause := fault.cause
    span := ⟨position.after (rest.take fault.start), position.after (rest.take fault.stop)⟩ }

end Lexical
end Scripting
