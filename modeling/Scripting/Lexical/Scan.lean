import Scripting.Lexical.Directive
import Scripting.Lexical.NumberLiteral
import Scripting.Lexical.Quotation

namespace Scripting
namespace Lexical

/-!
From a text to its tokens.

The scan covers the text piece by piece from its start.  Each piece is read
without regard to what came before it; the scan itself adds the positions, keeps
track of open brackets and applies directives.  The first fault ends it.
-/

/-- The word at the head of a text: a reserved word or an identifier. -/
def readWord (rest : List Char) : Part :=
  let word := wordAt rest
  let name := String.ofList word
  match Keyword.ofSpelling? name with
  | some keyword => ⟨some (.keyword keyword), word.length⟩
  | none => ⟨some (.identifier name), word.length⟩

/-- The string literal at the head of a text, merged with those that follow if asked for. -/
def readString (switches : Switches) (rest : List Char) : Except Fault (List Part) :=
  let more := if switches.implicitConcat then rest.length else 0
  (readLiterals switches.escapes more rest).map fun literal =>
    [⟨some (.text (String.ofList literal.1)), literal.2⟩]

/-- A bracket at the head of a text. -/
def readBracket? (c : Char) : Option TokenKind :=
  if c = '(' then some (.opening .round)
  else if c = '[' then some (.opening .square)
  else if c = ')' then some (.closing .round)
  else if c = ']' then some (.closing .square)
  else none

/-- A bracket or a symbol at the head of a text, or a character that starts nothing. -/
def readMark (c : Char) (rest : List Char) : Except Fault (List Part) :=
  match readBracket? c with
  | some kind => .ok [⟨some kind, 1⟩]
  | none =>
      match Symbol.read? rest with
      | some symbol => .ok [⟨some (.symbol symbol), symbol.spelling.length⟩]
      | none => .error ⟨.illegalCharacter c, 0, 1⟩

/-- The piece at the head of a text whose first character is `c`, directives apart. -/
def readPiece (switches : Switches) (c : Char) (rest : List Char) : Except Fault (List Part) :=
  if isInlineBlank c then .ok [⟨none, 1⟩]
  else if c = '\n' ∨ c = ';' then .ok [⟨some .newline, 1⟩]
  else if 0 < continuationLength rest then .ok [⟨none, continuationLength rest⟩]
  else if c = '#' then .ok [⟨none, lineCommentLength rest⟩]
  else if opensComment rest then
    match blockCommentLength? rest with
    | some length => .ok [⟨none, length⟩]
    | none => .error ⟨.unterminatedComment, 0, 2⟩
  else if (closingQuote? c).isSome then readString switches rest
  else if c.isDigit then readNumber switches.exponent rest
  else if Text.isIdentifierStart c then .ok [readWord rest]
  else readMark c rest

/-- How far a text has been read. -/
structure Scan where
  rest : List Char
  position : Source.Position
  switches : Switches
  tokens : Array Token
  /-- Brackets still open with their positions, the innermost first. -/
  brackets : List (Bracket × Source.Position)

/-- Nothing of the text has been read. -/
def Scan.start (switches : Switches) (text : List Char) : Scan where
  rest := text
  position := .start
  switches := switches
  tokens := #[]
  brackets := []

/-- Pass over characters that make no token. -/
def Scan.skip (scan : Scan) (length : Nat) : Scan :=
  { scan with
    rest := scan.rest.drop length
    position := scan.position.after (scan.rest.take length) }

/-- Cover characters that make a token. -/
def Scan.emit (scan : Scan) (kind : TokenKind) (length : Nat) : Scan :=
  let after := scan.skip length
  { after with tokens := scan.tokens.push ⟨kind, ⟨scan.position, after.position⟩⟩ }

/-- The error of a reader that began where the scan stands. -/
def Scan.fail (scan : Scan) (fault : Fault) : LexError :=
  fault.locate scan.position scan.rest

/-- Cover one part; a closing bracket has to match the innermost open one. -/
def Scan.cover (scan : Scan) (part : Part) : Except LexError Scan :=
  match part.kind with
  | none => .ok (scan.skip part.length)
  | some (.opening bracket) =>
      .ok { scan.emit (.opening bracket) part.length with
            brackets := (bracket, scan.position) :: scan.brackets }
  | some (.closing bracket) =>
      match scan.brackets with
      | [] => .error (scan.fail ⟨.unmatchedBracket bracket, 0, 1⟩)
      | (opened, _) :: outer =>
          if opened = bracket then
            .ok { scan.emit (.closing bracket) part.length with brackets := outer }
          else .error (scan.fail ⟨.mismatchedBracket bracket opened, 0, 1⟩)
  | some kind => .ok (scan.emit kind part.length)

/-- Cover parts that follow one another. -/
def Scan.coverAll : Scan → List Part → Except LexError Scan
  | scan, [] => .ok scan
  | scan, part :: parts =>
      match scan.cover part with
      | .ok next => next.coverAll parts
      | .error error => .error error

/-- A directive applies only before the first token other than a newline. -/
def Scan.direct (scan : Scan) : Except LexError Scan :=
  if scan.tokens.any fun token => token.kind ≠ .newline then
    .error (scan.fail ⟨.directiveTooLate, 0, 1⟩)
  else
    match readDirective scan.switches scan.rest with
    | .ok (switches, length) => .ok { scan.skip length with switches := switches }
    | .error fault => .error (scan.fail fault)

/-- Cover the piece at the head of what is still to be read. -/
def Scan.step (scan : Scan) : Except LexError Scan :=
  match scan.rest with
  | [] => .ok scan
  | c :: _ =>
      if c = '@' then scan.direct
      else
        match readPiece scan.switches c scan.rest with
        | .ok parts => scan.coverAll parts
        | .error fault => .error (scan.fail fault)

/-- Cover piece after piece; each has at least one character, so `fuel` of them suffice. -/
def Scan.run : Nat → Scan → Except LexError Scan
  | 0, scan => .ok scan
  | fuel + 1, scan =>
      if scan.rest.isEmpty then .ok scan
      else
        match scan.step with
        | .ok next => next.run fuel
        | .error error => .error error

/-- The end of a scan: no bracket is open, and the end of the file is a token. -/
def Scan.finish (scan : Scan) : Except LexError (List Token × Switches) :=
  match scan.brackets.getLast? with
  | some (bracket, position) =>
      .error ⟨.unclosedBracket bracket, ⟨position, position.step bracket.opening⟩⟩
  | none =>
      let last : Token := ⟨.endOfFile, ⟨scan.position, scan.position⟩⟩
      .ok (scan.tokens.toList ++ [last], scan.switches)

/-- The tokens of a text and the switches after it. -/
def tokenize (switches : Switches) (text : String) :
    Except LexError (List Token × Switches) :=
  let characters := text.toList
  match (Scan.start switches characters).run characters.length with
  | .ok scan => scan.finish
  | .error error => .error error

end Lexical
end Scripting
