import Scripting.Grammar.Fault
import Scripting.Program.Node

namespace Scripting
namespace Grammar

/-!
Readers of tokens.

A reader takes a place in a list of tokens and gives what it read with the place
after it, or the failure that ends the reading.  The place also holds the blocks
that are open, so that a block without an end is reported where it begins.  A failure
keeps the blocks that are open when it comes about: what was tried in vain may have
opened some, and they are given up afterwards.
-/

open Lexical (Bracket Keyword Symbol Token TokenKind)
open Source (Position Span)
open Program (Node Form)

/-- A place in a list of tokens that ends with the end of the file. -/
structure Place where
  current : Token
  rest : List Token
  /-- Where the token before this place ends. -/
  previousEnd : Position
  /-- The open blocks by the word that opens each, the innermost first. -/
  openers : List (Keyword × Span)
  /-- Whether arithmetic on integers is checked; without checks it wraps around. -/
  checked : Bool

/-- Why a reading ends without a result, and the blocks that are open at that point. -/
structure Failure extends ParseError where
  openers : List (Keyword × Span)

/-- A failure at a place. -/
def Place.failure (place : Place) (cause : Cause) (span : Span) : Failure :=
  ⟨⟨cause, span⟩, place.openers⟩

/-- The place after the current token; nothing lies past the end of the file. -/
def Place.advance (place : Place) : Place :=
  if place.current.kind = .endOfFile then place
  else
    match place.rest with
    | [] => place
    | next :: rest =>
        { place with current := next, rest := rest, previousEnd := place.current.span.stop }

/-- The token that ends a list of tokens which was cut off after the given place. -/
def endToken (position : Position) : Token :=
  ⟨.endOfFile, ⟨position, position⟩⟩

/-- The first place of a list of tokens; an end of the file is added if it is missing. -/
def Place.ofTokens (tokens : List Token) (checked : Bool := false) : Place :=
  match tokens with
  | [] => ⟨endToken .start, [], .start, [], checked⟩
  | first :: rest =>
      let last := (first :: rest).getLast (List.cons_ne_nil first rest)
      let closed := if last.kind = .endOfFile then rest else rest ++ [endToken last.span.stop]
      ⟨first, closed, first.span.start, [], checked⟩

/-- A reader of something from the tokens at a place. -/
abbrev Reader (α : Type) := StateT Place (Except Failure) α

/-- The current token, which stays where it is. -/
def peek : Reader Token := fun place => .ok (place.current, place)

/-- The current token, which is passed. -/
def advance : Reader Token := fun place => .ok (place.current, place.advance)

/-- End the reading with an error at the given span. -/
def failAt {α : Type} (cause : Cause) (span : Span) : Reader α :=
  fun place => .error (place.failure cause span)

/-- End the reading because the current token is not what is asked for. -/
def unexpected {α : Type} (expected : Expectation) : Reader α := fun place =>
  .error (place.failure (.unexpected expected place.current.kind) place.current.span)

/-- Whether the current token is of the given kind. -/
def isAt (kind : TokenKind) : Reader Bool := fun place =>
  .ok (place.current.kind = kind, place)

/-- Pass the current token if it is of the given kind. -/
def eat (kind : TokenKind) : Reader Bool := fun place =>
  if place.current.kind = kind then .ok (true, place.advance) else .ok (false, place)

/-- Pass the current token, which has to be of the given kind. -/
def expect (kind : TokenKind) : Reader Token := fun place =>
  if place.current.kind = kind then .ok (place.current, place.advance)
  else unexpected (.token kind) place

/-- Pass an identifier; a reserved word in its place has an error of its own. -/
def identifier (expected : Expectation) : Reader (String × Span) := fun place =>
  match place.current.kind with
  | .identifier name => .ok ((name, place.current.span), place.advance)
  | .keyword keyword => failAt (.keywordAsName keyword) place.current.span place
  | _ => unexpected expected place

/-- Pass the newlines at a place, given by its tokens and the end of the one before. -/
def passNewlines (current : Token) (previousEnd : Position) :
    List Token → Token × List Token × Position
  | [] => (current, [], previousEnd)
  | next :: rest =>
      if current.kind = .newline then passNewlines next current.span.stop rest
      else (current, next :: rest, previousEnd)

/-- Pass all newlines at the current place. -/
def skipNewlines : Reader Unit
  | ⟨current, rest, previousEnd, openers, checked⟩ =>
      let (current, rest, previousEnd) := passNewlines current previousEnd rest
      .ok ((), ⟨current, rest, previousEnd, openers, checked⟩)

/-- The span from a start to the last token passed, or an empty one if none was. -/
def spanFrom (start : Position) : Reader Span := fun place =>
  .ok (⟨start, if place.previousEnd.index < start.index then start else place.previousEnd⟩, place)

/-- A node from a start to the last token passed. -/
def nodeFrom (start : Position) (form : Form Node) : Reader Node := do
  let span ← spanFrom start
  return ⟨span, form⟩

/-- An operator between two operands spans both. -/
def binaryNode (op : Program.BinaryOp) (left right : Node) : Node :=
  ⟨left.span.through right.span, .binary op left right⟩

/--
Back to a place from where other blocks are open: the innermost of them are given up
until no more are left than at the place.
-/
def Place.rewind (place : Place) (openers : List (Keyword × Span)) : Place :=
  { place with openers := openers.drop (openers.length - place.openers.length) }

/--
Try a reader.  If it fails, reading goes on where it began, with what is left of the
blocks that are open at the failure.  An overflow ends the whole reading all the same.
-/
def attempt {α : Type} (reader : Reader α) : Reader (Option α) := fun place =>
  match reader place with
  | .ok (value, next) => .ok (some value, next)
  | .error failure =>
      if failure.cause = .overflow then .error failure
      else .ok (none, place.rewind failure.openers)

/--
Run a reader that repeats itself.  Every repetition but the last passes a token, so
the number of tokens left bounds the number of repetitions.
-/
def repeated {α : Type} (reader : Nat → Reader α) : Reader α := fun place =>
  reader (place.rest.length + 1) place

/-- Items separated by commas, at least one. -/
def commaSeparated {α : Type} (item : Reader α) : Nat → Reader (List α)
  | 0 => do return [← item]
  | fuel + 1 => do
      let first ← item
      if ← eat (.symbol .comma) then
        let others ← commaSeparated item fuel
        return first :: others
      else return [first]

/-- Items separated by commas inside brackets, where lines may be broken around them. -/
def bracketedItems {α : Type} (item : Reader α) : Nat → Reader (List α)
  | 0 => do return [← item]
  | fuel + 1 => do
      let first ← item
      skipNewlines
      if ← eat (.symbol .comma) then
        skipNewlines
        let others ← bracketedItems item fuel
        return first :: others
      else return [first]

/-- Open a block. -/
def enterBlock (opener : Keyword) (span : Span) : Reader Unit := fun place =>
  .ok ((), { place with openers := (opener, span) :: place.openers })

def isKeyword : TokenKind → Bool
  | .keyword _ => true
  | _ => false

/--
Pass the word that ends the innermost block.  At the end of the file or at any
other word the block was never closed; otherwise a statement went on for too long.
-/
def leaveBlock (closer : Keyword) : Reader Unit := fun place =>
  if place.current.kind = .keyword closer then
    let next := place.advance
    .ok ((), { next with openers := place.openers.tail })
  else
    match place.openers with
    | (opener, span) :: _ =>
        if place.current.kind = .endOfFile ∨ isKeyword place.current.kind = true then
          failAt (.neverClosed opener closer) span place
        else unexpected (.blockEnd closer) place
    | [] => unexpected (.blockEnd closer) place

/-- An optional label after the word of a loop or of a jump. -/
def label : Reader (Option String) := do
  if ← eat (.symbol .colon) then
    let (name, _) ← identifier .label
    return some name
  else return none

/--
The parts of the grammar that contain themselves.  Each of them is read with
less fuel than the one around it, and a token is passed in between.
-/
inductive Entry where
  | statement
  | expression
  | comparison
  | factor
  | chain
  deriving DecidableEq

/-- A reader for each part of the grammar that contains itself. -/
abbrev Descent := Entry → Reader Node

end Grammar
end Scripting
