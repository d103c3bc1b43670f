import Scripting.Program.Node

namespace Scripting
namespace Program

/-!
Where jumps and returns may stand.

A jump belongs into the body of a loop, one with a label into the body of a loop with that
label, and a return belongs into the body of a function.  What the head of a loop asks for
lies outside of that loop.  The body of a function starts anew without loops, and so do
defaults of parameters and bodies of classes, which are not in a function either.
-/

/-- The loops in whose bodies something lies, the innermost first, and whether it is in a function. -/
structure Enclosure where
  loops : List (Option String)
  inFunction : Bool

namespace Enclosure

/-- Neither in a loop nor in a function. -/
def outside : Enclosure := ⟨[], false⟩

/-- In the body of a function. -/
def function : Enclosure := ⟨[], true⟩

/-- In the body of one more loop. -/
def inLoop (around : Enclosure) (label : Option String) : Enclosure :=
  { around with loops := label :: around.loops }

/-- Whether a loop is there for a jump: any loop, or one with the label that the jump names. -/
def answers (around : Enclosure) : Option String → Bool
  | none => !around.loops.isEmpty
  | some name => around.loops.contains (some name)

end Enclosure

mutual

/-- Every jump has its loop and every return its function. -/
def Node.wellScoped (around : Enclosure) : Node → Bool
  | ⟨_, form⟩ => Form.wellScoped around form

def Form.wellScoped (around : Enclosure) : Form Node → Bool
  | .breakLoop label | .continueLoop label => around.answers label
  | .returnFrom value => around.inFunction && optionWellScoped around value
  | .loop label header body _ =>
      headerWellScoped around header && Node.wellScoped (around.inLoop label) body
  | .function _ _ optional body _ =>
      defaultsWellScoped .outside optional && Node.wellScoped .function body
  | .classDef _ parent body =>
      optionWellScoped around parent && Node.wellScoped .outside body
  | .list elements => allWellScoped around elements
  | .assign targets _ values => targetsWellScoped around targets && allWellScoped around values
  | .binary _ left right => Node.wellScoped around left && Node.wellScoped around right
  | .comparison first links => Node.wellScoped around first && linksWellScoped around links
  | .unary _ operand => Node.wellScoped around operand
  | .fallback operands => allWellScoped around operands
  | .conditional cases otherwise _ =>
      casesWellScoped around cases && optionWellScoped around otherwise
  | .call callee arguments => Node.wellScoped around callee && allWellScoped around arguments
  | .attribute base steps => Node.wellScoped around base && allWellScoped around steps
  | .exportAs value _ => Node.wellScoped around value
  | .write text _ target line =>
      Node.wellScoped around text && Node.wellScoped around target && optionWellScoped around line
  | .read target _ line => Node.wellScoped around target && optionWellScoped around line
  | .assertion condition message =>
      Node.wellScoped around condition && optionWellScoped around message
  | .block statements => allWellScoped around statements
  | .number _ | .text _ | .name _ | .inspect _ | .placeholder | .delete _ | .importModule .. => true

def headerWellScoped (around : Enclosure) : LoopHeader Node → Bool
  | .counted _ first last step =>
      Node.wellScoped around first && Node.wellScoped around last && optionWellScoped around step
  | .each _ items => Node.wellScoped around items
  | .whileTrue condition | .doWhile condition => Node.wellScoped around condition
  | .endless => true

def allWellScoped (around : Enclosure) : List Node → Bool
  | [] => true
  | node :: rest => Node.wellScoped around node && allWellScoped around rest

def optionWellScoped (around : Enclosure) : Option Node → Bool
  | none => true
  | some node => Node.wellScoped around node

def targetsWellScoped (around : Enclosure) : List (Target Node) → Bool
  | [] => true
  | ⟨object, _, _⟩ :: rest => optionWellScoped around object && targetsWellScoped around rest

def linksWellScoped (around : Enclosure) : List (CompareOp × Node) → Bool
  | [] => true
  | (_, operand) :: rest => Node.wellScoped around operand && linksWellScoped around rest

def casesWellScoped (around : Enclosure) : List (Node × Node) → Bool
  | [] => true
  | (condition, body) :: rest =>
      Node.wellScoped around condition && Node.wellScoped around body && casesWellScoped around rest

def defaultsWellScoped (around : Enclosure) : List (String × Node) → Bool
  | [] => true
  | (_, value) :: rest => Node.wellScoped around value && defaultsWellScoped around rest

end

end Program
end Scripting
