import Scripting.Grammar.Atom

namespace Scripting
namespace Grammar

/-!
Operators in the order of their precedence, from calls to fallbacks.

Each level reads the operands of the next tighter one, down to atoms with the
calls and attributes that follow them.
-/

open Lexical (Bracket Keyword Symbol Token TokenKind)
open Source (Position Span)
open Program

def assignOp? : TokenKind → Option AssignOp
  | .symbol .assign => some .set
  | .symbol .plusAssign => some (.compound .add)
  | .symbol .minusAssign => some (.compound .sub)
  | .symbol .starAssign => some (.compound .mul)
  | .symbol .slashAssign => some (.compound .div)
  | .symbol .doubleSlashAssign => some (.compound .floorDiv)
  | .symbol .percentAssign => some (.compound .mod)
  | .symbol .caretAssign => some (.compound .pow)
  | .symbol .pipeAssign => some (.compound .bitOr)
  | .symbol .ampersandAssign => some (.compound .bitAnd)
  | .symbol .doubleCaretAssign => some (.compound .bitXor)
  | _ => none

def logicOp? : TokenKind → Option BinaryOp
  | .keyword .andWord => some .and
  | .keyword .orWord => some .or
  | .keyword .xorWord => some .xor
  | .symbol .pipe => some .bitOr
  | .symbol .ampersand => some .bitAnd
  | .symbol .doubleCaret => some .bitXor
  | _ => none

def compareOp? : TokenKind → Option CompareOp
  | .symbol .equal => some .eq
  | .symbol .notEqual => some .ne
  | .symbol .less => some .lt
  | .symbol .greater => some .gt
  | .symbol .lessEqual => some .le
  | .symbol .greaterEqual => some .ge
  | _ => none

def additiveOp? : TokenKind → Option BinaryOp
  | .symbol .plus => some .add
  | .symbol .minus => some .sub
  | _ => none

def multiplicativeOp? : TokenKind → Option BinaryOp
  | .symbol .star => some .mul
  | .symbol .slash => some .div
  | .symbol .doubleSlash => some .floorDiv
  | .symbol .percent => some .mod
  | _ => none

def prefixOp? : TokenKind → Option UnaryOp
  | .symbol .plus => some .pos
  | .symbol .minus => some .neg
  | .symbol .tilde => some .bitNot
  | _ => none

/-- The arguments of a call after its opening bracket, through the closing one. -/
def arguments (self : Descent) : Reader (List Node) := do
  skipNewlines
  if ← eat (.closing .round) then return []
  else
    let given ← repeated (bracketedItems (self .expression))
    let _ ← expect (.closing .round)
    return given

/-- Calls of what has been read so far. -/
def callSuffixes (self : Descent) : Nat → Node → Reader Node
  | 0, callee => return callee
  | fuel + 1, callee => do
      if ← eat (.opening .round) then
        let given ← arguments self
        let call ← nodeFrom callee.span.start (.call callee given)
        callSuffixes self fuel call
      else return callee

/-- Calls of what has been read so far, as many as there are. -/
def called (self : Descent) (callee : Node) : Reader Node :=
  repeated fun fuel => callSuffixes self fuel callee

/-- A name with the calls after it. -/
def calledName (self : Descent) (expected : Expectation) : Reader Node := do
  let (name, span) ← identifier expected
  called self ⟨span, .name name⟩

/-- The steps of an attribute chain, each after its dot. -/
def attributeSteps (self : Descent) : Nat → Reader (List Node)
  | 0 => return []
  | fuel + 1 => do
      if ← eat (.symbol .dot) then
        let step ← calledName self .attributeName
        let others ← attributeSteps self fuel
        return step :: others
      else return []

/-- A base followed by steps is an attribute chain; without steps it stays what it is. -/
def attributeChain (base : Node) (steps : List Node) : Node :=
  match steps.getLast? with
  | some last => ⟨base.span.through last.span, .attribute base steps⟩
  | none => base

/-- An atom with calls, then attributes of it. -/
def chain (self : Descent) : Reader Node := do
  let base ← called self (← atom self)
  let steps ← repeated (attributeSteps self)
  return attributeChain base steps

/-- A power; its exponent may have a sign and be a power again. -/
def power (self : Descent) : Reader Node := do
  let base ← chain self
  if ← eat (.symbol .caret) then
    let exponent ← self .factor
    return binaryNode .pow base exponent
  else return base

/-- Signs before a power. -/
def factor (self : Descent) : Reader Node := do
  let token ← peek
  match prefixOp? token.kind with
  | some op =>
      let _ ← advance
      let operand ← self .factor
      nodeFrom token.span.start (.unary op operand)
  | none => power self

/-- Operators of one level, grouped from the left. -/
def leftGrouped (op? : TokenKind → Option BinaryOp) (operand : Reader Node) :
    Nat → Node → Reader Node
  | 0, left => return left
  | fuel + 1, left => do
      match op? (← peek).kind with
      | some op =>
          let _ ← advance
          let right ← operand
          leftGrouped op? operand fuel (binaryNode op left right)
      | none => return left

/-- Operands of one level with the operators between them. -/
def binaryLevel (op? : TokenKind → Option BinaryOp) (operand : Reader Node) : Reader Node := do
  let first ← operand
  repeated fun fuel => leftGrouped op? operand fuel first

def term (self : Descent) : Reader Node :=
  binaryLevel multiplicativeOp? (factor self)

def sum (self : Descent) : Reader Node :=
  binaryLevel additiveOp? (term self)

/-- The links of a chain of comparisons. -/
def comparisonLinks (operand : Reader Node) : Nat → Reader (List (CompareOp × Node))
  | 0 => return []
  | fuel + 1 => do
      match compareOp? (← peek).kind with
      | some op =>
          let _ ← advance
          let right ← operand
          let others ← comparisonLinks operand fuel
          return (op, right) :: others
      | none => return []

/-- A chain of comparisons, or the negation of one. -/
def comparison (self : Descent) : Reader Node := do
  let token ← peek
  if token.kind = .keyword .notWord then
    let _ ← advance
    let operand ← self .comparison
    nodeFrom token.span.start (.unary .not operand)
  else
    let first ← sum self
    let links ← repeated (comparisonLinks (sum self))
    match links.getLast? with
    | some (_, last) => return ⟨first.span.through last.span, .comparison first links⟩
    | none => return first

/-- Logical and bitwise operators, which all bind alike. -/
def logic (self : Descent) : Reader Node :=
  binaryLevel logicOp? (comparison self)

/-- Operands after the first one of a fallback. -/
def fallbackOperands (operand : Reader Node) : Nat → Reader (List Node)
  | 0 => return []
  | fuel + 1 => do
      if ← eat (.symbol .question) then
        let next ← operand
        let others ← fallbackOperands operand fuel
        return next :: others
      else return []

/-- Operands of which the first with a value is taken. -/
def fallback (self : Descent) : Reader Node := do
  let first ← logic self
  let others ← repeated (fallbackOperands (logic self))
  match others.getLast? with
  | some last => return ⟨first.span.through last.span, .fallback (first :: others)⟩
  | none => return first

end Grammar
end Scripting
