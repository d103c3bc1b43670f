import Scripting.Grammar.Reader

namespace Scripting
namespace Grammar

/-!
Forms with a body: conditionals, loops, functions and classes.

Each has a form on one line, whose body is a single statement, and a form over
several lines, whose body is a block that ends with a word of its own.
-/

open Lexical (Bracket Keyword Symbol Token TokenKind)
open Source (Position Span)
open Program

/-- Whether the current token is the end of the file or one of the given words. -/
def isAtStop (stop : List Keyword) : Reader Bool := fun place =>
  let stops :=
    match place.current.kind with
    | .endOfFile => true
    | .keyword keyword => stop.contains keyword
    | _ => false
  .ok (stops, place)

/-- Statements separated by newlines, up to a stop or to what no newline precedes. -/
def statementList (self : Descent) (stop : List Keyword) : Nat → Reader (List Node)
  | 0 => return []
  | fuel + 1 => do
      if ← isAtStop stop then return []
      else
        let statement ← self .statement
        if ← isAt .newline then
          skipNewlines
          let others ← statementList self stop fuel
          return statement :: others
        else return [statement]

/-- A block of statements, with any newlines around them. -/
def statements (self : Descent) (stop : List Keyword) : Reader Node := do
  let start := (← peek).span.start
  skipNewlines
  let body ← repeated (statementList self stop)
  nodeFrom start (.block body)

/-- A block on lines of its own, through the word that ends it. -/
def closedBlock (self : Descent) (opener : Keyword) (span : Span) (closer : Keyword) :
    Reader Node := do
  enterBlock opener span
  let body ← statements self [closer]
  leaveBlock closer
  return body

/-- The body of a loop, with a flag for a block. -/
def loopBody (self : Descent) (opener : Keyword) (span : Span) : Reader (Node × Bool) := do
  if ← isAt .newline then
    let body ← closedBlock self opener span .endWord
    return (body, true)
  else
    let body ← self .statement
    return (body, false)

/-- Further cases of a conditional and what holds otherwise. -/
def furtherCases (self : Descent) (body lastBody : Reader Node) :
    Nat → Reader (List (Node × Node) × Option Node)
  | 0 => return ([], none)
  | fuel + 1 => do
      if ← eat (.keyword .elifWord) then
        let condition ← self .expression
        let _ ← expect (.keyword .thenWord)
        let chosen ← body
        let (others, otherwise) ← furtherCases self body lastBody fuel
        return ((condition, chosen) :: others, otherwise)
      else if ← eat (.keyword .elseWord) then
        let otherwise ← lastBody
        return ([], some otherwise)
      else return ([], none)

def conditional (self : Descent) : Reader Node := do
  let opener ← advance
  let condition ← self .expression
  let _ ← expect (.keyword .thenWord)
  if ← isAt .newline then
    enterBlock .ifWord opener.span
    let body := statements self [.elifWord, .elseWord, .endWord]
    let first ← body
    let (others, otherwise) ← repeated (furtherCases self body (statements self [.endWord]))
    leaveBlock .endWord
    nodeFrom opener.span.start (.conditional ((condition, first) :: others) otherwise true)
  else
    let first ← self .statement
    let (others, otherwise) ←
      repeated (furtherCases self (self .statement) (self .statement))
    nodeFrom opener.span.start (.conditional ((condition, first) :: others) otherwise false)

/-- An optional step after the bounds of a counted loop. -/
def stepClause (self : Descent) : Reader (Option Node) := do
  if ← eat (.keyword .stepWord) then
    let step ← self .expression
    return some step
  else return none

def forLoop (self : Descent) : Reader Node := do
  let opener ← advance
  let label ← label
  let (name, _) ← identifier .loopVariable
  if ← eat (.symbol .assign) then
    let first ← self .expression
    let _ ← expect (.keyword .toWord)
    let last ← self .expression
    let step ← stepClause self
    let _ ← expect (.keyword .thenWord)
    let (body, block) ← loopBody self .forWord opener.span
    nodeFrom opener.span.start (.loop label (.counted name first last step) body block)
  else if ← eat (.keyword .inWord) then
    let items ← self .expression
    let _ ← expect (.keyword .thenWord)
    let (body, block) ← loopBody self .forWord opener.span
    nodeFrom opener.span.start (.loop label (.each name items) body block)
  else unexpected .loopRange

def whileLoop (self : Descent) : Reader Node := do
  let opener ← advance
  let label ← label
  let condition ← self .expression
  let _ ← expect (.keyword .thenWord)
  let (body, block) ← loopBody self .whileWord opener.span
  nodeFrom opener.span.start (.loop label (.whileTrue condition) body block)

def endlessLoop (self : Descent) : Reader Node := do
  let opener ← advance
  let label ← label
  let _ ← eat (.keyword .thenWord)
  let (body, block) ← loopBody self .loopWord opener.span
  nodeFrom opener.span.start (.loop label .endless body block)

/-- The body of a loop that tests its condition at the end, through the word after it. -/
def doBody (self : Descent) (span : Span) : Reader (Node × Bool) := do
  if ← isAt .newline then
    let body ← closedBlock self .doWord span .thenWord
    return (body, true)
  else
    let body ← self .statement
    let _ ← expect (.keyword .thenWord)
    return (body, false)

def doLoop (self : Descent) : Reader Node := do
  let opener ← advance
  let label ← label
  let (body, block) ← doBody self opener.span
  let _ ← expect (.keyword .loopWord)
  let _ ← expect (.keyword .whileWord)
  let condition ← self .expression
  nodeFrom opener.span.start (.loop label (.doWhile condition) body block)

/-- The parameters of a function read so far. -/
structure Parameters where
  required : List String
  optional : List (String × Node)

/-- Whether a name is already the name of a parameter. -/
def Parameters.contains (parameters : Parameters) (name : String) : Bool :=
  parameters.required.contains name || parameters.optional.any (·.1 = name)

/-- One more parameter: names are distinct, and those with a default come last. -/
def parameter (self : Descent) (parameters : Parameters) : Reader Parameters := do
  let (name, span) ← identifier .parameterName
  if parameters.contains name then failAt (.duplicateParameter name) span
  else if ← eat (.symbol .assign) then
    let value ← self .expression
    return { parameters with optional := parameters.optional ++ [(name, value)] }
  else if !parameters.optional.isEmpty then failAt (.requiredAfterOptional name) span
  else return { parameters with required := parameters.required ++ [name] }

/-- Further parameters, at least one. -/
def parameterList (self : Descent) : Nat → Parameters → Reader Parameters
  | 0, parameters => parameter self parameters
  | fuel + 1, parameters => do
      let extended ← parameter self parameters
      if ← eat (.symbol .comma) then parameterList self fuel extended
      else return extended

/-- The parameters of a function between their brackets. -/
def parameters (self : Descent) : Reader Parameters := do
  let _ ← expect (.opening .round)
  let read ← (do
    if ← isAt (.closing .round) then return ⟨[], []⟩
    else repeated fun fuel => parameterList self fuel ⟨[], []⟩ : Reader Parameters)
  let _ ← expect (.closing .round)
  return read

/-- The name of a function, which it may be without. -/
def functionName : Reader (Option String) := do
  if ← isAt (.opening .round) then return none
  else
    let (name, _) ← identifier .functionName
    return some name

def function (self : Descent) : Reader Node := do
  let opener ← advance
  let name ← functionName
  let ⟨required, optional⟩ ← parameters self
  if ← eat (.symbol .arrow) then
    let body ← self .expression
    nodeFrom opener.span.start (.function name required optional body true)
  else if ← isAt .newline then
    let body ← closedBlock self .defWord opener.span .endWord
    nodeFrom opener.span.start (.function name required optional body false)
  else unexpected .bodyStart

/-- The class that a class extends, between brackets. -/
def parentClause (self : Descent) : Reader (Option Node) := do
  if ← eat (.opening .round) then
    let parent ← self .chain
    let _ ← expect (.closing .round)
    return some parent
  else return none

def classDefinition (self : Descent) : Reader Node := do
  let opener ← advance
  let (name, _) ← identifier .className
  let parent ← parentClause self
  if ← eat (.symbol .arrow) then
    let body ← self .statement
    nodeFrom opener.span.start (.classDef name parent body)
  else if ← isAt .newline then
    let body ← closedBlock self .classWord opener.span .endWord
    nodeFrom opener.span.start (.classDef name parent body)
  else unexpected .bodyStart

end Grammar
end Scripting
