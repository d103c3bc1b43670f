import Scripting.Grammar.Bodies

namespace Scripting
namespace Grammar

/-!
Atoms: literals, names, bracketed expressions and forms with a body.
-/

open Lexical (Bracket Keyword Symbol Token TokenKind)
open Source (Position Span)
open Program

/-- The sign before the digits of a power of ten. -/
def exponentSign : Reader Bool := do
  if ← eat (.symbol .minus) then return true
  else
    let _ ← eat (.symbol .plus)
    return false

/-- The digits of an exponent with its sign; the least word is its own negation. -/
def signedDigits (negative : Bool) (digits : Int64) (span : Span) : Reader Int64 := fun place =>
  if negative = true then
    if place.checked = true ∧ digits = Int64.minValue then failAt .overflow span place
    else .ok (-digits, place)
  else .ok (digits, place)

/-- A number literal with the power of ten that may follow it. -/
def number (value : Literal) (span : Span) : Reader Node := do
  let literal : Node := ⟨span, .number value⟩
  if ← eat .exponent then
    let start := (← peek).span.start
    let negative ← exponentSign
    match (← peek).kind with
    | .int digits =>
        let token ← advance
        let power ← signedDigits negative digits token.span
        let exponent ← nodeFrom start (.number (.int power))
        return binaryNode .scale literal exponent
    | _ => unexpected .exponentDigits
  else return literal

/-- An expression between round brackets keeps its own span. -/
def bracketed (self : Descent) : Reader Node := do
  let _ ← advance
  skipNewlines
  let inner ← self .expression
  skipNewlines
  let _ ← expect (.closing .round)
  return inner

/-- The elements of a list literal after its opening bracket, through the closing one. -/
def listElements (self : Descent) : Reader (List Node) := do
  skipNewlines
  if ← eat (.closing .square) then return []
  else
    let elements ← repeated (bracketedItems (self .expression))
    if ← eat (.closing .square) then return elements
    else unexpected .listContinuation

def listLiteral (self : Descent) : Reader Node := do
  let opener ← advance
  let elements ← listElements self
  nodeFrom opener.span.start (.list elements)

/-- The atom at the current place. -/
def atom (self : Descent) : Reader Node := do
  let token ← peek
  match token.kind with
  | .int value =>
      let _ ← advance
      number (.int value) token.span
  | .float value =>
      let _ ← advance
      number (.float value) token.span
  | .text value =>
      let _ ← advance
      return ⟨token.span, .text value⟩
  | .identifier name =>
      let _ ← advance
      return ⟨token.span, .name name⟩
  | .symbol .dollar =>
      let _ ← advance
      let (name, _) ← identifier .inspectedName
      nodeFrom token.span.start (.inspect name)
  | .opening .round => bracketed self
  | .opening .square => listLiteral self
  | .keyword .defaultWord =>
      let _ ← advance
      return ⟨token.span, .placeholder⟩
  | .keyword .ifWord => conditional self
  | .keyword .forWord => forLoop self
  | .keyword .whileWord => whileLoop self
  | .keyword .doWord => doLoop self
  | .keyword .loopWord => endlessLoop self
  | .keyword .defWord => function self
  | .keyword .classWord => classDefinition self
  | _ => unexpected .expression

end Grammar
end Scripting
