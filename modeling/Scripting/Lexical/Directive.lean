import Scripting.Lexical.Fault
import Scripting.Lexical.Switches
import Scripting.Text.Letters

namespace Scripting
namespace Lexical

/-!
Directives: `@meta` with the name of a switch and an optional value.
-/

/-- The characters of an identifier at the head of a text. -/
def wordAt (rest : List Char) : List Char :=
  rest.takeWhile Text.isIdentifierPart

/-- The blanks between the words of a directive. -/
def gapAt (rest : List Char) : Nat :=
  (rest.takeWhile fun c => c = ' ' || c = '\t').length

/--
The directive at the head of a text that starts with its sign: the switches from
there on and the length of the directive.  A switch without a value is turned on.
-/
def readDirective (switches : Switches) (rest : List Char) : Except Fault (Switches × Nat) :=
  let word := wordAt (rest.drop 1)
  let afterWord := 1 + word.length
  if String.ofList word ≠ "meta" then
    .error ⟨.notADirective (String.ofList word), 0, afterWord⟩
  else
    let nameStart := afterWord + gapAt (rest.drop afterWord)
    let name := wordAt (rest.drop nameStart)
    let afterName := nameStart + name.length
    if name.isEmpty then .error ⟨.missingSwitchName, 0, afterName⟩
    else
      let valueStart := afterName + gapAt (rest.drop afterName)
      let value := wordAt (rest.drop valueStart)
      let length := valueStart + value.length
      let flag? := if value.isEmpty then some true else readFlag? (String.ofList value)
      match flag? with
      | none => .error ⟨.invalidSwitchValue (String.ofList value) (String.ofList name), 0, length⟩
      | some flag =>
          match switches.set? (String.ofList name) flag with
          | none => .error ⟨.unknownSwitch (String.ofList name), 0, length⟩
          | some updated => .ok (updated, length)

end Lexical
end Scripting
