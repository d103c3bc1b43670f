import Scripting.Lexical.Fault

namespace Scripting
namespace Lexical

/-!
Text between tokens: blanks, comments and continued lines.

Readers of this and the following modules take the rest of a text and say how
many characters at its head they cover.  Only the scan turns these lengths into
positions.
-/

/-- Blanks inside a line. -/
def isInlineBlank (c : Char) : Bool :=
  c = ' ' || c = '\t' || c = '\r'

/-- A line comment runs up to the end of its line. -/
def lineCommentLength (rest : List Char) : Nat :=
  (rest.takeWhile (· ≠ '\n')).length

/--
The characters up to the end of a block comment whose opening has been read.
`depth` counts the comments nested in it that are open as well.
-/
def commentTail? : Nat → List Char → Option Nat
  | _, [] => none
  | depth, '/' :: '*' :: rest => (commentTail? (depth + 1) rest).map (· + 2)
  | 0, '*' :: '/' :: _ => some 2
  | depth + 1, '*' :: '/' :: rest => (commentTail? depth rest).map (· + 2)
  | depth, _ :: rest => (commentTail? depth rest).map (· + 1)

/-- The length of the block comment at the head of a text that starts with its opening. -/
def blockCommentLength? (rest : List Char) : Option Nat :=
  (commentTail? 0 (rest.drop 2)).map (· + 2)

/-- Whether a block comment opens at the head of a text. -/
def opensComment : List Char → Bool
  | '/' :: '*' :: _ => true
  | _ => false

/-- The length of a backslash that joins its line to the next one, if it is at the head. -/
def continuationLength : List Char → Nat
  | '\\' :: '\n' :: _ => 2
  | '\\' :: '\r' :: '\n' :: _ => 3
  | _ => 0

/--
The blanks, line feeds and complete comments at the head of a text, which may
stand between string literals that are read as one.  The first argument counts
characters that are already known to belong to a comment.
-/
def triviaFrom : Nat → List Char → Nat
  | _, [] => 0
  | inside + 1, _ :: rest => triviaFrom inside rest + 1
  | 0, c :: rest =>
      if isInlineBlank c || c = '\n' then triviaFrom 0 rest + 1
      else if c = '#' then triviaFrom (lineCommentLength rest) rest + 1
      else if opensComment (c :: rest) then
        match blockCommentLength? (c :: rest) with
        | some (length + 1) => triviaFrom length rest + 1
        | _ => 0
      else 0

/-- The length of the trivia at the head of a text. -/
def triviaLength (rest : List Char) : Nat :=
  triviaFrom 0 rest

end Lexical
end Scripting
