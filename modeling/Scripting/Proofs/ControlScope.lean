import Scripting.Proofs.Moments

namespace Scripting
namespace Session

/-!
Control stays in its scope.

A session runs programs one after another, and functions that one of them defines may run
much later.  If the programs and the modules that they import are well scoped, every jump
reaches a loop that it addresses and every return the call of its function, so that no run
fails because of one that nothing asks for.
-/

open Evaluation
open Files (Tree)
open Source (Document)

/-- What a run of a program that has been read begins with. -/
def State.moment (state : State) (fuel : Nat) (document : Document) (program : Program.Node) :
    Moment :=
  ⟨fuel, .evaluate program (programFrame document), state.machine⟩

/-- A program is well scoped, and so are the modules that its run imports. -/
structure State.Scopes (state : State) (fuel : Nat) (document : Document)
    (program : Program.Node) : Prop where
  inside : program.wellScoped .outside = true
  imports : (state.moment fuel document program).ImportsScoped state.settings

/-- The runs of well-scoped programs, with what comes of them. -/
inductive ScopedRun (state : State) : Outcome × State → Prop
  | evaluate {fuel : Nat} {document : Document} {program : Program.Node}
      (scopes : state.Scopes fuel document program) :
      ScopedRun state (state.evaluate fuel document program)
  | run {fuel : Nat} {document : Document}
      (scopes : ∀ program, (Grammar.readProgram state.switches document.text).1 = .ok program →
        state.Scopes fuel document program) : ScopedRun state (state.run fuel document)
  | runFile {fuel : Nat} {path : String}
      (scopes : ∀ text program, state.machine.files.readText path = .ok text →
        (Grammar.readProgram state.switches text).1 = .ok program →
          state.Scopes fuel ⟨path, text⟩ program) : ScopedRun state (state.runFile fuel path)

/-- The states of a session of well-scoped programs. -/
inductive ScopedSession (first : State) : State → Prop
  | start : ScopedSession first first
  | run {state : State} {result : Outcome × State} (before : ScopedSession first state)
      (ran : ScopedRun state result) : ScopedSession first result.2
  | outside {state : State} (before : ScopedSession first state) (console : Console)
      (files : Tree) :
      ScopedSession first
        { state with machine := { state.machine with console := console, files := files } }

/-- A run has not failed because of a jump or a return that nothing asks for. -/
def Outcome.Heeded (outcome : Outcome) : Prop :=
  ∀ error, outcome = .failed error → error.fault.isStray = false

theorem startHeap_scoped : startHeap.Scoped := by
  have none : startHeap.functions = #[] :=
    Data.Heap.functions_installAll {} Data.preludeFunctions (.ofList Data.preludeConstants)
  intro function member
  rw [none] at member
  exact absurd member (Array.not_mem_empty function)

/-- What is admitted outside of everything is not about control. -/
theorem Outcome.heeded_of_admits {interrupt : Interrupt} (admitted : Admits .outside interrupt)
    (frame : Frame) : (Outcome.ofInterrupt frame interrupt).Heeded := by
  rintro error same
  match interrupt with
  | .error _ =>
      cases same
      exact admitted
  | .signal (.returned _ _) => cases admitted
  | .signal (.jumped _ none _) => cases admitted
  | .signal (.jumped _ (some _) _) => cases admitted
  | .signal (.exited _) => cases same
  | .outOfFuel => cases same

namespace State

variable {state : State}

theorem Scopes.orderly {fuel : Nat} {document : Document} {program : Program.Node}
    (scopes : state.Scopes fuel document program) (clean : state.machine.heap.Scoped) :
    (state.moment fuel document program).Orderly state.settings .outside :=
  ⟨scopes.inside, clean, scopes.imports⟩

theorem evaluate_heeded {fuel : Nat} {document : Document} {program : Program.Node}
    (scopes : state.Scopes fuel document program) (clean : state.machine.heap.Scoped) :
    (state.evaluate fuel document program).1.Heeded ∧
      (state.evaluate fuel document program).2.machine.heap.Scoped := by
  have heeded : Heeded .outside anything (Evaluation.perform state.settings fuel
      (.evaluate program (programFrame document)) state.machine) :=
    (scopes.orderly clean).heeded
  simp only [State.evaluate]
  generalize Evaluation.perform state.settings fuel (.evaluate program (programFrame document))
    state.machine = ending at heeded
  cases heeded with
  | value clean _ =>
      refine ⟨fun error same => ?_, clean⟩
      cases same
  | interrupt clean admitted => exact ⟨Outcome.heeded_of_admits admitted _, clean⟩

theorem run_heeded {fuel : Nat} {document : Document}
    (scopes : ∀ program, (Grammar.readProgram state.switches document.text).1 = .ok program →
      state.Scopes fuel document program) (clean : state.machine.heap.Scoped) :
    (state.run fuel document).1.Heeded ∧
      (state.run fuel document).2.machine.heap.Scoped := by
  unfold State.run
  rcases read : Grammar.readProgram state.switches document.text with ⟨error | program, switches⟩
  · exact ⟨nofun, clean⟩
  · have same : (Grammar.readProgram state.switches document.text).1 = .ok program := by rw [read]
    have scopes := scopes program same
    have after : State.Scopes { state with switches := switches } fuel document program :=
      ⟨scopes.inside, scopes.imports⟩
    exact evaluate_heeded after clean

end State

/-- One run of a session keeps its functions well scoped. -/
theorem ScopedRun.heeded {state : State} {result : Outcome × State} (ran : ScopedRun state result)
    (clean : state.machine.heap.Scoped) :
    result.1.Heeded ∧ result.2.machine.heap.Scoped := by
  cases ran with
  | evaluate scopes => exact State.evaluate_heeded scopes clean
  | run scopes => exact State.run_heeded scopes clean
  | @runFile fuel path scopes =>
      unfold State.runFile
      cases read : state.machine.files.readText path with
      | error error => exact ⟨nofun, clean⟩
      | ok text => exact State.run_heeded (fun program => scopes text program read) clean

theorem ScopedSession.clean {settings : Settings} {console : Console} {files : Tree}
    {state : State} (session : ScopedSession (Session.start settings console files) state) :
    state.machine.heap.Scoped := by
  induction session with
  | start => exact startHeap_scoped
  | run before ran ih => exact (ran.heeded ih).2
  | outside before console files ih => exact ih

/-! ## A nest of loops -/

namespace Nest

open Program (Node)
open Source (Span)

def span : Span := ⟨.start, .start⟩

/-- A jump to the outer one of two loops. -/
def jump : Node := ⟨span, .breakLoop (some "outer")⟩

def inner : Node := ⟨span, .loop none .endless jump false⟩

def outer : Node := ⟨span, .loop (some "outer") .endless inner false⟩

/-- The nest, a function that returns from a loop, a call of it, and an import. -/
def program : Node :=
  let body : Node := ⟨span, .loop none .endless ⟨span, .returnFrom (some outer)⟩ false⟩
  let define : Node := ⟨span, .function (some "f") [] [] body false⟩
  let call : Node := ⟨span, .call ⟨span, .name "f"⟩ []⟩
  ⟨span, .block [outer, define, call, ⟨span, .importModule "nest" none⟩]⟩

def document : Document := ⟨"main.ql", ""⟩

/-- A module of the same shape. -/
def files : Tree where
  files := [(⟨["nest.ql"]⟩, "loop: outer then loop then break: outer".toUTF8)]

def state : State := start {} {} files

/-- Where the jump is evaluated. -/
def origin : Moment := ⟨6, .evaluate jump (programFrame document), state.machine⟩

def signal : Signal := .jumped .leave (some "outer") ⟨document, span⟩

theorem scopes : state.Scopes 9 document program := by
  have lies : (state.moment 9 document program).task.Lies .outside := rfl
  exact ⟨rfl, Moment.importsScoped_of_guarded lies startHeap_scoped 0 (by decide +kernel)⟩

/-- Whether a task was not given enough fuel. -/
def isOutOfFuel {α : Type} : Ending α → Bool
  | .error .outOfFuel _ => true
  | _ => false

/-- A task that has enough fuel asks for what it cannot go on without. -/
theorem asks_of_fed {outer inner : Moment} (more : outer.fuel = inner.fuel + 1)
    (fed : isOutOfFuel (outer.ending {}) = false)
    (needed : ∀ self : Evaluator, self inner.task inner.machine = .error .outOfFuel inner.machine →
      performWith {} inner.fuel self outer.task outer.machine = .error .outOfFuel inner.machine) :
    outer.Asks {} inner := by
  refine ⟨more, asks_of_needed ?_ fun self stops => ⟨_, needed self stops⟩⟩
  intro after starved
  rw [Moment.ending, more] at fed
  rw [show perform {} (inner.fuel + 1) outer.task outer.machine = _ from starved] at fed
  cases fed

/-- An endless loop begins with its body. -/
theorem asks_body {fuel : Nat} {label : Option String} {body : Node} {frame : Frame}
    {machine : Machine}
    (fed : isOutOfFuel (Moment.ending {}
      ⟨fuel + 2, .evaluate ⟨span, .loop label .endless body false⟩ frame, machine⟩) = false) :
    Moment.Asks {} ⟨fuel + 2, .evaluate ⟨span, .loop label .endless body false⟩ frame, machine⟩
      ⟨fuel + 1, .evaluate body frame, machine⟩ := by
  refine asks_of_fed rfl fed fun self stops => ?_
  have pass : runPass self frame label body machine = .error .outOfFuel machine := by
    unfold runPass Evaluator.eval
    rw [stops]
  have turn : endlessTurn (runPass self frame label body) () machine =
      .error .outOfFuel machine := bind_of_error pass _
  have turns : takeTurns (endlessTurn (runPass self frame label body)) (fuel + 1) () [] machine =
      .error .outOfFuel machine := bind_of_error turn _
  exact bind_of_error turns _

/-- A block begins with its first statement. -/
theorem asks_statement {fuel : Nat} {node : Node} {rest : List Node} {frame : Frame}
    {machine : Machine}
    (fed : isOutOfFuel (Moment.ending {}
      ⟨fuel + 1, .evaluate ⟨span, .block (node :: rest)⟩ frame, machine⟩) = false) :
    Moment.Asks {} ⟨fuel + 1, .evaluate ⟨span, .block (node :: rest)⟩ frame, machine⟩
      ⟨fuel, .evaluate node frame, machine⟩ :=
  asks_of_fed rfl fed fun _ stops => bind_of_error stops _

theorem reaches_origin : (state.moment 9 document program).Reaches {} origin := by
  have first : (state.moment 9 document program).Asks {}
      ⟨8, .evaluate outer (programFrame document), state.machine⟩ :=
    asks_statement (by decide +kernel)
  have second : Moment.Asks {} ⟨8, .evaluate outer (programFrame document), state.machine⟩
      ⟨7, .evaluate inner (programFrame document), state.machine⟩ :=
    asks_body (by decide +kernel)
  have third : Moment.Asks {} ⟨7, .evaluate inner (programFrame document), state.machine⟩ origin :=
    asks_body (by decide +kernel)
  exact .head first (.head second (.single third))

theorem origin_sends : origin.Sends {} signal := by
  have ends : ∀ machine, perform {} 6 (.evaluate jump (programFrame document)) machine =
      .error (.signal signal) machine := fun machine => rfl
  exact ⟨state.machine, ends state.machine, rfl⟩

end Nest

/-! ## Control in sessions -/

/--
No run of a session of well-scoped programs fails because of a jump or a return that nothing
asks for.  Whatever sends one in such a run, it is passed on from task to task, past all that
it is not meant for, and consumed by the first that it is meant for: by a loop that it
addresses, from its body, or by the call of the function.
-/
theorem control_stays_in_scope {settings : Settings} {console : Console} {files : Tree}
    {state : State} (session : ScopedSession (start settings console files) state) :
    (∀ result, ScopedRun state result → ∀ error, result.1 = .failed error →
      ¬ (error.fault.kind = .runTime ∧ error.fault.message ∈ Data.strayMessages)) ∧
    (∀ fuel document program, state.Scopes fuel document program →
      ∀ origin signal, (state.moment fuel document program).Reaches state.settings origin →
        origin.Sends state.settings signal →
          (state.moment fuel document program).Consumed state.settings origin signal) := by
  have clean := session.clean
  constructor
  · intro result ran error failed said
    have ordinary := (ran.heeded clean).1 error failed
    exact absurd ((Data.isStray_iff error.fault).mpr said) (Bool.eq_false_iff.mp ordinary)
  · intro fuel document program scopes origin signal reaches sends
    exact (scopes.orderly clean).consumed reaches sends

/-- The jump out of both loops leaves the inner one and is consumed by the outer one. -/
theorem nest_stays_in_scope :
    Nest.state.Scopes 9 Nest.document Nest.program ∧
      (∀ error, (Nest.state.evaluate 9 Nest.document Nest.program).1 = .failed error →
        ¬ (error.fault.kind = .runTime ∧ error.fault.message ∈ Data.strayMessages)) ∧
      (Nest.state.moment 9 Nest.document Nest.program).Reaches {} Nest.origin ∧
      Nest.origin.Sends {} Nest.signal ∧
      (Nest.state.moment 9 Nest.document Nest.program).Consumed {} Nest.origin Nest.signal := by
  have session : ScopedSession (start {} {} Nest.files) Nest.state := .start
  have kept := control_stays_in_scope session
  exact ⟨Nest.scopes, kept.1 _ (.evaluate Nest.scopes), Nest.reaches_origin, Nest.origin_sends,
    kept.2 9 Nest.document Nest.program Nest.scopes _ _ Nest.reaches_origin Nest.origin_sends⟩

end Session
end Scripting
