import Scripting.Evaluation.Machine
import Scripting.Grammar.Reading

namespace Scripting
namespace Session

/-!
How a run of a program ends.
-/

open Data (Value)
open Evaluation (Crash Frame Interrupt RuntimeError strayJump)
open Files (FileError)
open Grammar (SourceError)
open Source (Document)

/-- The ways in which a run ends. -/
inductive Outcome where
  | finished (value : Value)
  /-- The text is not a program. -/
  | rejected (document : Document) (error : SourceError)
  | failed (error : RuntimeError)
  /-- The program asked to end with an exit code. -/
  | exited (code : Int32)
  /-- The file that was to be run cannot be read. -/
  | unreadable (path : String) (error : FileError)
  /-- The interpreter broke off. -/
  | crashed (crash : Crash)
  | outOfFuel

/-- The end of a run that is interrupted; in the frame of the program nothing asks for a signal. -/
def Outcome.ofInterrupt (frame : Frame) : Interrupt → Outcome
  | .error error => .failed error
  | .signal (.returned _ place) => .failed ⟨.returnOutside, place, frame.trail⟩
  | .signal (.jumped jump label place) => .failed ⟨strayJump jump label, place, frame.trail⟩
  | .signal (.exited code) => .exited code
  | .crashed crash => .crashed crash
  | .outOfFuel => .outOfFuel

/-- What is said of a file that cannot be read. -/
def describeUnreadable (path : String) (error : FileError) : String :=
  s!"could not read {path}: {error.message}"

/-- What is said of a run that asks for an exit. -/
def describeExit (code : Int32) : String :=
  s!"exit requested with code {code.toInt}"

/-- What is said when the interpreter breaks off. -/
def describeCrash : Crash → String
  | .overgrown _ => "capacity overflow"
  | .undeclared => "index out of bounds"

/-- The report of a run that does not end with a value. -/
def Outcome.report? : Outcome → Option String
  | .finished _ => none
  | .rejected document error => some (error.report document)
  | .failed error => some error.report
  | .exited code => some (describeExit code)
  | .unreadable path error => some (describeUnreadable path error)
  | .crashed crash => some (describeCrash crash)
  | .outOfFuel => some "the program ran for too long"

end Session
end Scripting
