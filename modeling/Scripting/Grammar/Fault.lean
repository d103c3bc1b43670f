import Scripting.Lexical.Token

namespace Scripting
namespace Grammar

/-!
What can be wrong with a list of tokens that is not a program.
-/

open Lexical (Bracket Keyword Symbol TokenKind)

/-- What the grammar asks for at a place where it finds something else. -/
inductive Expectation where
  | token (kind : TokenKind)
  | expression
  | endOfStatement
  | blockEnd (closer : Keyword)
  | moduleName
  | renamed
  | exportName
  | exportedAs
  | label
  | variableName
  | inspectedName
  | attributeName
  | assignOperator
  | redirection
  | exponentDigits
  | listContinuation
  | loopVariable
  | loopRange
  | functionName
  | parameterName
  | className
  | bodyStart
  deriving DecidableEq

/-- How messages speak of what is asked for. -/
def Expectation.describe : Expectation → String
  | .token kind => kind.describe
  | .expression => "an expression"
  | .endOfStatement => "a newline or end of file"
  | .blockEnd closer => s!"a newline or '{closer.spelling}'"
  | .moduleName => "a module name"
  | .renamed => "an alias"
  | .exportName => "an export name"
  | .exportedAs => "'as' and a name for the exported value"
  | .label => "a label"
  | .variableName => "a variable name"
  | .inspectedName => "a variable name after '$'"
  | .attributeName => "an attribute name"
  | .assignOperator => "'=' or a compound assignment operator"
  | .redirection => "'>>' or '!>>'"
  | .exponentDigits => "exponent digits"
  | .listContinuation => "',' or ']'"
  | .loopVariable => "a loop variable"
  | .loopRange => "'=' or 'in'"
  | .functionName => "a function name or '('"
  | .parameterName => "a parameter name"
  | .className => "a class name"
  | .bodyStart => "'->' or a newline"

/-- Why a list of tokens is not a program. -/
inductive Cause where
  | unexpected (expected : Expectation) (found : TokenKind)
  | keywordAsName (keyword : Keyword)
  | neverClosed (opener closer : Keyword)
  | duplicateParameter (name : String)
  | requiredAfterOptional (name : String)
  | assignToCall
  /-- The nesting is deeper than the number of tokens allows. -/
  | tooDeep
  /-- An exponent has no negation, and arithmetic is checked: the program breaks down. -/
  | overflow
  deriving DecidableEq

/-- What the report of a cause says. -/
def Cause.message : Cause → String
  | .unexpected expected found => s!"expected {expected.describe}, found {found.describe}"
  | .keywordAsName keyword =>
      s!"'{keyword.spelling}' is a keyword and cannot be used as an identifier"
  | .neverClosed opener closer =>
      s!"'{opener.spelling}' block is never closed, expected '{closer.spelling}'"
  | .duplicateParameter name => s!"duplicate parameter '{name}'"
  | .requiredAfterOptional name =>
      s!"required parameter '{name}' cannot follow optional parameters"
  | .assignToCall => "cannot assign to the result of a call"
  | .tooDeep => "the program is nested too deeply"
  | .overflow => "attempt to negate with overflow"

/-- The name under which all these errors are reported. -/
def errorKind : String := "SyntaxError"

/-- A cause with the stretch of text that it is found in. -/
structure ParseError where
  cause : Cause
  span : Source.Span
  deriving DecidableEq

end Grammar
end Scripting
