namespace Scripting
namespace Lexical

/-!
Switches that directives at the head of a program set.

The switches outlive the text that sets them, so that a program typed in line
by line is read in the same way as one that is read whole.
-/

/-- How literals are read. -/
structure Switches where
  /-- Backslash escapes in string literals are decoded. -/
  escapes : Bool := true
  /-- Neighbouring string literals are one token. -/
  implicitConcat : Bool := true
  /-- A decimal literal may carry a power of ten. -/
  exponent : Bool := true
  deriving DecidableEq, Repr

/-- Turn the switch with the given name on or off. -/
def Switches.set? (switches : Switches) (name : String) (value : Bool) : Option Switches :=
  match name with
  | "escapes" => some { switches with escapes := value }
  | "implicit_concat" => some { switches with implicitConcat := value }
  | "exponent" => some { switches with exponent := value }
  | _ => none

/-- The spellings of on and off. -/
def readFlag? : String → Option Bool
  | "true" | "on" | "1" => some true
  | "false" | "off" | "0" => some false
  | _ => none

end Lexical
end Scripting
