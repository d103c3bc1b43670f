import Scripting.Lexical.Keyword
import Scripting.Lexical.Symbol
import Scripting.Number.Written
import Scripting.Source.Position
import Scripting.Text.Quoted

namespace Scripting
namespace Lexical

/-!
Tokens, the words of a program.
-/

/-- What a token is, with the value of a literal already read. -/
inductive TokenKind where
  | int (value : Int64)
  | float (value : Float)
  | text (value : String)
  | identifier (name : String)
  | keyword (word : Keyword)
  /-- The letter between a decimal literal and its power of ten. -/
  | exponent
  | symbol (mark : Symbol)
  | opening (bracket : Bracket)
  | closing (bracket : Bracket)
  /-- A line feed or a semicolon. -/
  | newline
  | endOfFile
  deriving DecidableEq

/-- A token with the stretch of text it was read from. -/
structure Token where
  kind : TokenKind
  span : Source.Span
  deriving DecidableEq

/-- How messages speak of a token. -/
def TokenKind.describe : TokenKind → String
  | .int value => "int " ++ Number.writeInt value
  | .float value => "float " ++ Number.writeFloat value
  | .text value => "string " ++ Text.quoted value
  | .identifier name => s!"identifier '{name}'"
  | .keyword word => s!"'{word.spelling}'"
  | .exponent => "exponent"
  | .symbol mark => s!"'{mark.spelling}'"
  | .opening bracket => s!"'{bracket.opening}'"
  | .closing bracket => s!"'{bracket.closing}'"
  | .newline => "newline"
  | .endOfFile => "end of file"

end Lexical
end Scripting
