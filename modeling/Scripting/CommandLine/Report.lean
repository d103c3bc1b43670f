import Scripting.Session.Basic

namespace Scripting
namespace CommandLine

/-!
What the program leaves behind when it ends.
-/

open Session (Outcome)

/-- The exit code, what was printed, and what was reported. -/
structure Report where
  code : UInt8 := 0
  output : String := ""
  errors : String := ""

/-- The code of a run that fails. -/
def failure : UInt8 := 1

/-- The code of a command line that cannot be understood. -/
def usageFailure : UInt8 := 2

/-- The code of a program that breaks off. -/
def breakdown : UInt8 := 101

/-- An exit code as the system takes it; one out of range counts as a failure. -/
def exitByte (code : Int32) : UInt8 :=
  if 0 ≤ code.toInt ∧ code.toInt < 256 then code.toInt.toNat.toUInt8 else failure

/-- The code that a run ends with. -/
def codeOf : Outcome → UInt8
  | .finished _ => 0
  | .exited code => exitByte code
  | .crashed _ => breakdown
  | _ => failure

/-- What is written about a run that fails; an exit is no failure. -/
def complaint : Outcome → String
  | .exited _ => ""
  | outcome =>
      match outcome.report? with
      | some report => report ++ "\n"
      | none => ""

/-- A single reason stands alone; several are numbered from zero. -/
def describeReasons : List String → List String
  | [reason] => [s!"    {reason}\n"]
  | reasons => reasons.zipIdx.map fun (reason, number) => s!"    {number}: {reason}\n"

/-- A failure with the reasons behind it, each one the reason of the one before. -/
def describeFailure (what : String) (reasons : List String) : String :=
  s!"Error: {what}\n\nCaused by:\n" ++ String.join (describeReasons reasons)

end CommandLine
end Scripting
