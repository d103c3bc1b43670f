import Scripting.Evaluation.Perform
import Scripting.Session.Outcome

namespace Scripting
namespace Session

/-!
Sessions: programs that run one after another.

All programs of a session share their global names, what they export, and the
switches that directives set, so that a program may be given line by line.  A run
that fails leaves behind whatever it did before.
-/

open Data (Bindings ExportsId Heap TableId Value)
open Evaluation (Console Frame Machine Settings)
open Files (Tree)
open Lexical (Switches)
open Source (Document)

/-- The table of the global names, which lies inside that of the prelude. -/
def globalTable : TableId := ⟨1⟩

/-- What the programs of a session export. -/
def programExports : ExportsId := ⟨0⟩

/-- The name of the frame that programs run in. -/
def programName : String := "<program>"

/-- The state of a session between two runs. -/
structure State where
  settings : Settings
  machine : Machine
  switches : Switches := {}

/-- The heap that a session starts with: the prelude, no global names and no exports. -/
def startHeap : Heap :=
  let (prelude, heap) := Heap.newPrelude {}
  let (_, heap) := heap.newTable prelude
  let (_, heap) := heap.newTable .empty
  let (_, heap) := heap.newExports
  heap

/-- A new session. -/
def start (settings : Settings) (console : Console) (files : Tree) : State where
  settings := settings
  machine := { heap := startHeap, depth := 0, console := console, files := files }

/-- The frame that a program runs in. -/
def programFrame (document : Document) : Frame where
  trail := .root programName
  scope := ⟨globalTable, [Evaluation.preludeTable]⟩
  exports := some programExports
  document := document

/-- More fuel than any run can use up: two to the power of sixty-two units. -/
def ampleFuel : Nat := 4611686018427387904

namespace State

/-- Run a program that has been read. -/
def evaluate (state : State) (fuel : Nat) (document : Document) (program : Program.Node) :
    Outcome × State :=
  let frame := programFrame document
  match Evaluation.perform state.settings fuel (.evaluate program frame) state.machine with
  | .ok value machine => (.finished value, { state with machine := machine })
  | .error interrupt machine => (.ofInterrupt frame interrupt, { state with machine := machine })

/-- Read a text and run it. -/
def run (state : State) (fuel : Nat) (document : Document) : Outcome × State :=
  let (reading, switches) := Grammar.readProgram state.switches document.text
  let state := { state with switches := switches }
  match reading with
  | .error error => (.rejected document error, state)
  | .ok program => state.evaluate fuel document program

/-- Read a file and run it.  Its path is not seen from the working directory of the settings. -/
def runFile (state : State) (fuel : Nat) (path : String) : Outcome × State :=
  match state.machine.files.readText path with
  | .error error => (.unreadable path error, state)
  | .ok text => state.run fuel ⟨path, text⟩

/-- The global names. -/
def globals (state : State) : Bindings Value :=
  state.machine.heap.table globalTable

/-- What has been exported. -/
def exports (state : State) : Bindings Value :=
  state.machine.heap.exported programExports

/-- What has been printed, which is forgotten. -/
def takeOutput (state : State) : String × State :=
  let console := state.machine.console
  (console.output,
    { state with machine := { state.machine with console := { console with output := "" } } })

end State

end Session
end Scripting
