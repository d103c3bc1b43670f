import Scripting.Grammar.Expression

namespace Scripting
namespace Grammar

/-!
Assignments, input and output, jumps, and whole programs.
-/

open Lexical (Bracket Keyword Symbol Token TokenKind)
open Source (Position Span)
open Program

/-- The object that owns the last of the given steps. -/
def ownerOf (first : Node) (others : List Node) : Option Node :=
  match others with
  | [] => none
  | _ :: _ => some (attributeChain first others.dropLast)

/--
A target of an assignment.  Every step of it may be called except the last, which
names the variable or the attribute that is set.
-/
def target (self : Descent) : Reader (Target Node) := do
  let start := (← peek).span.start
  let first ← calledName self .variableName
  let others ← repeated (attributeSteps self)
  let span ← spanFrom start
  let last := others.getLastD first
  match last.form with
  | .name name => return ⟨ownerOf first others, name, span⟩
  | _ => failAt .assignToCall last.span

def assignment (self : Descent) : Reader Node := do
  let opener ← advance
  let targets ← repeated (commaSeparated (target self))
  match assignOp? (← peek).kind with
  | some op =>
      let _ ← advance
      let values ← repeated (commaSeparated (self .expression))
      nodeFrom opener.span.start (.assign targets op values)
  | none => unexpected .assignOperator

def deletion : Reader Node := do
  let opener ← advance
  let (name, _) ← identifier .variableName
  nodeFrom opener.span.start (.delete name)

/-- The direction of a write: to the end or, overwriting, from the start. -/
def redirection : Reader Bool := do
  match (← peek).kind with
  | .symbol .redirect =>
      let _ ← advance
      return false
  | .symbol .overwrite =>
      let _ ← advance
      return true
  | _ => unexpected .redirection

def writeStatement (self : Descent) : Reader Node := do
  let opener ← advance
  let text ← self .expression
  let overwrite ← redirection
  let target ← self .expression
  let line ← attempt (self .expression)
  nodeFrom opener.span.start (.write text overwrite target line)

/-- The variable that a read sets. -/
def readInto : Reader (Option String) := do
  if ← eat (.symbol .redirect) then
    let (name, _) ← identifier .variableName
    return some name
  else return none

def readStatement (self : Descent) : Reader Node := do
  let opener ← advance
  let target ← self .expression
  let variableName ← readInto
  let line ← attempt (self .expression)
  nodeFrom opener.span.start (.read target variableName line)

/-- The message of an assertion after a comma. -/
def assertionMessage (self : Descent) : Reader (Option Node) := do
  if ← eat (.symbol .comma) then
    let message ← self .expression
    return some message
  else return none

def assertionStatement (self : Descent) : Reader Node := do
  let opener ← advance
  let condition ← self .expression
  let message ← assertionMessage self
  nodeFrom opener.span.start (.assertion condition message)

/-- An expression, including the forms that read like statements and have a value. -/
def expression (self : Descent) : Reader Node := do
  match (← peek).kind with
  | .keyword .varWord => assignment self
  | .keyword .delWord => deletion
  | .keyword .writeWord => writeStatement self
  | .keyword .readWord => readStatement self
  | .keyword .assertWord => assertionStatement self
  | _ => fallback self

def returnStatement (self : Descent) : Reader Node := do
  let opener ← advance
  let value ← attempt (self .expression)
  nodeFrom opener.span.start (.returnFrom value)

def breakStatement : Reader Node := do
  let opener ← advance
  let label ← label
  nodeFrom opener.span.start (.breakLoop label)

def continueStatement : Reader Node := do
  let opener ← advance
  let label ← label
  nodeFrom opener.span.start (.continueLoop label)

/-- Another name after `as`. -/
def nameAfterAs (expected : Expectation) : Reader (Option String) := do
  if ← eat (.keyword .asWord) then
    let (name, _) ← identifier expected
    return some name
  else return none

def importStatement : Reader Node := do
  let opener ← advance
  let (name, _) ← identifier .moduleName
  let rename ← nameAfterAs .renamed
  nodeFrom opener.span.start (.importModule name rename)

/-- The name under which a value is exported when none is given. -/
def impliedName? (value : Node) : Option String :=
  match value.form with
  | .name name => some name
  | .function name .. => name
  | .classDef name .. => some name
  | _ => none

def exportStatement (self : Descent) : Reader Node := do
  let opener ← advance
  let value ← self .expression
  let given ← nameAfterAs .exportName
  match given.orElse fun _ => impliedName? value with
  | some name => nodeFrom opener.span.start (.exportAs value name)
  | none => unexpected .exportedAs

/-- A statement: a jump, an import or export, or an expression. -/
def statement (self : Descent) : Reader Node := do
  match (← peek).kind with
  | .keyword .returnWord => returnStatement self
  | .keyword .breakWord => breakStatement
  | .keyword .continueWord => continueStatement
  | .keyword .importWord => importStatement
  | .keyword .exportWord => exportStatement self
  | _ => expression self

/-- One level of the grammar in terms of the levels inside it. -/
def level (self : Descent) : Descent
  | .statement => statement self
  | .expression => expression self
  | .comparison => comparison self
  | .factor => factor self
  | .chain => chain self

/-- The grammar up to a given depth of nesting. -/
def descend : Nat → Descent
  | 0, _ => fun place => failAt .tooDeep place.current.span place
  | depth + 1, entry => level (descend depth) entry

/-- The statements of a program through the end of the file. -/
def program (self : Descent) : Reader Node := do
  let body ← statements self []
  if ← isAt .endOfFile then return body
  else unexpected .endOfStatement

/-- What a reader gives from a place on, or why it gives nothing. -/
def Reader.outcome {α : Type} (reader : Reader α) (place : Place) : Except ParseError α :=
  match reader place with
  | .ok (value, _) => .ok value
  | .error failure => .error failure.toParseError

/--
The program that a list of tokens makes up.  A token is passed on the way from
each level of the grammar to the next, so the nesting is never deeper than the
number of tokens.
-/
def parse (tokens : List Token) (checked : Bool := false) : Except ParseError Node :=
  (program (descend (tokens.length + 2))).outcome (Place.ofTokens tokens checked)

end Grammar
end Scripting
