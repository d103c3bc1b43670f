import Scripting.Number.Written
import Scripting.Program.Node
import Scripting.Text.Quoted

namespace Scripting
namespace Program

/-!
Programs shown as nested lists.

Each form is written between brackets after a word that names it, followed by
its parts.  Spans and the layout of the program are not shown.
-/

def Literal.render : Literal → String
  | .int value => Number.writeInt value
  | .float value => Number.writeFloat value

/-- A label follows the word it belongs to. -/
def renderLabel : Option String → String
  | some label => ":" ++ label
  | none => ""

mutual

/-- The nested list of a program. -/
def Node.render : Node → String
  | ⟨_, form⟩ => Form.render form

def Form.render : Form Node → String
  | .number value => value.render
  | .text value => Text.quoted value
  | .list elements => "(list" ++ renderAll elements ++ ")"
  | .name name => name
  | .inspect name => "$" ++ name
  | .placeholder => "default"
  | .assign targets op values =>
      "(var" ++ renderTargets targets ++ " " ++ op.spelling ++ renderAll values ++ ")"
  | .delete name => "(del " ++ name ++ ")"
  | .binary op left right =>
      "(" ++ op.spelling ++ " " ++ left.render ++ " " ++ right.render ++ ")"
  | .comparison first links => "(compare " ++ first.render ++ renderLinks links ++ ")"
  | .unary op operand => "(" ++ op.spelling ++ " " ++ operand.render ++ ")"
  | .fallback operands => "(?" ++ renderAll operands ++ ")"
  | .conditional cases otherwise _ =>
      "(if" ++ renderCases cases ++ renderOption " [else " otherwise "]" ++ ")"
  | .loop label header body _ => "(" ++ renderLoop (renderLabel label) header body.render ++ ")"
  | .function name required optional body _ =>
      "(def " ++ name.getD "<anonymous>" ++ " (" ++
        String.intercalate " " (required ++ renderDefaults optional) ++ ") " ++ body.render ++ ")"
  | .classDef name parent body =>
      "(class " ++ name ++ renderOption " (" parent ")" ++ " " ++ body.render ++ ")"
  | .call callee arguments => "(call " ++ callee.render ++ renderAll arguments ++ ")"
  | .attribute base steps => "(. " ++ base.render ++ renderAll steps ++ ")"
  | .returnFrom value => "(return" ++ renderOption " " value "" ++ ")"
  | .breakLoop label => "(break" ++ renderLabel label ++ ")"
  | .continueLoop label => "(continue" ++ renderLabel label ++ ")"
  | .importModule name rename =>
      "(import " ++ name ++ (match rename with | some other => " as " ++ other | none => "") ++ ")"
  | .exportAs value name => "(export " ++ value.render ++ " as " ++ name ++ ")"
  | .write text overwrite target line =>
      "(write " ++ text.render ++ (if overwrite then " !>> " else " >> ") ++ target.render ++
        renderOption " " line "" ++ ")"
  | .read target bind line =>
      "(read " ++ target.render ++
        (match bind with | some name => " >> " ++ name | none => "") ++
        renderOption " " line "" ++ ")"
  | .assertion condition message =>
      "(assert " ++ condition.render ++ renderOption " " message "" ++ ")"
  | .block statements => "(block" ++ renderAll statements ++ ")"

/-- The parts of a loop after its label; the text of the body is given. -/
def renderLoop (label : String) : LoopHeader Node → String → String
  | .counted counter first last step, body =>
      "for" ++ label ++ " " ++ counter ++ " " ++ first.render ++ " " ++ last.render ++
        renderOption " step " step "" ++ " " ++ body
  | .each item items, body => "for" ++ label ++ " " ++ item ++ " in " ++ items.render ++ " " ++ body
  | .whileTrue condition, body => "while" ++ label ++ " " ++ condition.render ++ " " ++ body
  | .doWhile condition, body => "do" ++ label ++ " " ++ body ++ " " ++ condition.render
  | .endless, body => "loop" ++ label ++ " " ++ body

/-- Nodes one after the other, each after a space. -/
def renderAll : List Node → String
  | [] => ""
  | node :: rest => " " ++ node.render ++ renderAll rest

/-- A node between two texts, or nothing at all. -/
def renderOption (before : String) : Option Node → String → String
  | none, _ => ""
  | some node, after => before ++ node.render ++ after

def renderTargets : List (Target Node) → String
  | [] => ""
  | ⟨object, name, _⟩ :: rest =>
      " " ++ renderOption "" object "." ++ name ++ renderTargets rest

def renderLinks : List (CompareOp × Node) → String
  | [] => ""
  | (op, operand) :: rest => " " ++ op.spelling ++ " " ++ operand.render ++ renderLinks rest

def renderCases : List (Node × Node) → String
  | [] => ""
  | (condition, body) :: rest =>
      " [" ++ condition.render ++ " " ++ body.render ++ "]" ++ renderCases rest

def renderDefaults : List (String × Node) → List String
  | [] => []
  | (name, value) :: rest => (name ++ "=" ++ value.render) :: renderDefaults rest

end

end Program
end Scripting
