import Scripting.Grammar.Statement
import Scripting.Lexical.Scan
import Scripting.Source.Report

namespace Scripting
namespace Grammar

/-!
Texts read as programs.
-/

open Lexical (LexError Switches)
open Program (Node)
open Source (Document Span)

/-- Why a text is not a program. -/
inductive SourceError where
  | lexical (error : LexError)
  | grammatical (error : ParseError)

namespace SourceError

/-- The name under which an error is reported. -/
def kind : SourceError → String
  | .lexical error => error.cause.kind
  | .grammatical _ => errorKind

def message : SourceError → String
  | .lexical error => error.cause.message
  | .grammatical error => error.cause.message

def span : SourceError → Span
  | .lexical error => error.span
  | .grammatical error => error.span

/-- What went wrong in one line. -/
def headline (error : SourceError) : String :=
  Source.headline error.kind error.message

/-- The report of an error in a document. -/
def report (error : SourceError) (document : Document) : String :=
  (⟨document, error.span⟩ : Source.Place).report error.kind error.message

end SourceError

/--
Read a text as a program, and give the switches for the texts after it.  A text
that cannot be split into tokens leaves the switches as they were; one that
merely makes no program does not.
-/
def readProgram (switches : Switches) (text : String) : Except SourceError Node × Switches :=
  match Lexical.tokenize switches text with
  | .error error => (.error (.lexical error), switches)
  | .ok (tokens, next) =>
      match parse tokens with
      | .error error => (.error (.grammatical error), next)
      | .ok node => (.ok node, next)

end Grammar
end Scripting
