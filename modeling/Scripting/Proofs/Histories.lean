import Scripting.Proofs.Elementary
import Scripting.Session.Basic

namespace Scripting
namespace Session

/-!
Histories of sessions.

A session goes through runs of any number and kind, whether they come to an end
or fail.  Between two runs the world may change the files and the console.  What
one evaluation in the frame of the program keeps, a whole session keeps.
-/

open Evaluation (Console Frame Machine finalMachine perform)
open Files (Tree)
open Source (Document)

/-- The states that a session can come to from a given one. -/
inductive Leads (first : State) : State → Prop
  | start : Leads first first
  | evaluate {state : State} (before : Leads first state) (fuel : Nat) (document : Document)
      (program : Program.Node) : Leads first (state.evaluate fuel document program).2
  | run {state : State} (before : Leads first state) (fuel : Nat) (document : Document) :
      Leads first (state.run fuel document).2
  | runFile {state : State} (before : Leads first state) (fuel : Nat) (path : String) :
      Leads first (state.runFile fuel path).2
  | outside {state : State} (before : Leads first state) (console : Console) (files : Tree) :
      Leads first
        { state with machine := { state.machine with console := console, files := files } }

/-- A property of machines that evaluation and the world outside do not spoil. -/
structure Kept (property : Machine → Prop) : Prop where
  evaluate : ∀ settings fuel program document machine, property machine →
    property (finalMachine
      (perform settings fuel (.evaluate program (programFrame document)) machine))
  outside : ∀ machine console files, property machine →
    property { machine with console := console, files := files }

namespace Kept

variable {property : Machine → Prop}

theorem machine_evaluate (kept : Kept property) (state : State) (fuel : Nat)
    (document : Document) (program : Program.Node) (holds : property state.machine) :
    property (state.evaluate fuel document program).2.machine := by
  have after := kept.evaluate state.settings fuel program document state.machine holds
  simp only [State.evaluate]
  generalize perform state.settings fuel (.evaluate program (programFrame document))
    state.machine = ending at after
  cases ending with
  | ok value machine => exact after
  | error interrupt machine => exact after

theorem machine_run (kept : Kept property) (state : State) (fuel : Nat) (document : Document)
    (holds : property state.machine) : property (state.run fuel document).2.machine := by
  unfold State.run
  rcases Grammar.readProgram state.switches document.text with ⟨error | program, switches⟩
  · exact holds
  · exact kept.machine_evaluate { state with switches := switches } fuel document program holds

theorem machine_runFile (kept : Kept property) (state : State) (fuel : Nat) (path : String)
    (holds : property state.machine) : property (state.runFile fuel path).2.machine := by
  unfold State.runFile
  cases state.machine.files.readText path with
  | error error => exact holds
  | ok text => exact kept.machine_run state fuel ⟨path, text⟩ holds

/-- What is kept and holds at first holds in every state of a session. -/
theorem machine_leads (kept : Kept property) {first state : State} (leads : Leads first state)
    (holds : property first.machine) : property state.machine := by
  induction leads with
  | start => exact holds
  | evaluate before fuel document program ih =>
      exact kept.machine_evaluate _ fuel document program ih
  | run before fuel document ih => exact kept.machine_run _ fuel document ih
  | runFile before fuel path ih => exact kept.machine_runFile _ fuel path ih
  | outside before console files ih => exact kept.outside _ console files ih

end Kept

end Session
end Scripting
