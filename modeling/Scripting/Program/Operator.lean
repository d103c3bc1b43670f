namespace Scripting
namespace Program

/-!
The operators of the language and their spellings.
-/

/-- Operators between two operands. -/
inductive BinaryOp where
  | add
  | sub
  | mul
  | div
  | floorDiv
  | mod
  | pow
  | bitOr
  | bitAnd
  | bitXor
  | and
  | or
  | xor
  /-- The left operand times ten to the power of the right one. -/
  | scale
  deriving DecidableEq, Repr

def BinaryOp.spelling : BinaryOp → String
  | .add => "+"
  | .sub => "-"
  | .mul => "*"
  | .div => "/"
  | .floorDiv => "//"
  | .mod => "%"
  | .pow => "^"
  | .bitOr => "|"
  | .bitAnd => "&"
  | .bitXor => "^^"
  | .and => "and"
  | .or => "or"
  | .xor => "xor"
  | .scale => "e"

/-- Comparisons, which may be chained. -/
inductive CompareOp where
  | eq
  | ne
  | lt
  | gt
  | le
  | ge
  deriving DecidableEq, Repr

def CompareOp.spelling : CompareOp → String
  | .eq => "=="
  | .ne => "!="
  | .lt => "<"
  | .gt => ">"
  | .le => "<="
  | .ge => ">="

/-- Operators before their operand. -/
inductive UnaryOp where
  | neg
  | pos
  | bitNot
  | not
  deriving DecidableEq, Repr

def UnaryOp.spelling : UnaryOp → String
  | .neg => "-"
  | .pos => "+"
  | .bitNot => "~"
  | .not => "not"

/-- Plain assignment, or assignment of the result of an operator. -/
inductive AssignOp where
  | set
  | compound (op : BinaryOp)
  deriving DecidableEq, Repr

def AssignOp.spelling : AssignOp → String
  | .set => "="
  | .compound op => op.spelling ++ "="

end Program
end Scripting
