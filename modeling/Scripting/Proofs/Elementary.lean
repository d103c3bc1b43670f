import Scripting.Evaluation.Builtins
import Scripting.Evaluation.Modules
import Scripting.Evaluation.Transfers

namespace Scripting
namespace Evaluation

/-!
Elementary actions.

Most of what evaluation does is elementary: it calls nothing, binds no name and
sends no signal to a loop or a function.  It may read and change everything else,
and it may end in an error.  Everything that functions of the language do is of
this kind.

An action is compared with another one that differs from it only in the trails
of its frames, so that it can be said of both at once that they do the same.  What
is asked of two trails is left open, and whoever wants to speak of one action alone
asks for equal ones.
-/

open Data (Bindings Fault Heap Operation Value)
open Source (Place Span)

/-- How an action ends, with a value or an interrupt, and what it leaves behind. -/
abbrev Ending (α : Type) := EStateM.Result Interrupt Machine α

/-- The machine that is left behind. -/
def finalMachine {α : Type} : Ending α → Machine
  | .ok _ machine => machine
  | .error _ machine => machine

/-- A signal that a loop or a function may take for its own. -/
def Signal.isLocal : Signal → Bool
  | .returned .. | .jumped .. => true
  | .exited _ => false

/-- Endings that differ at most in the trail of an error. -/
inductive Concurs (alike : Trail → Trail → Prop) {α : Type} : Ending α → Ending α → Prop
  | value (value : α) (machine : Machine) : Concurs alike (.ok value machine) (.ok value machine)
  | error {trail other : Trail} (fault : Fault) (place : Place) (machine : Machine)
      (trails : alike trail other) :
      Concurs alike (.error (.error ⟨fault, place, trail⟩) machine)
        (.error (.error ⟨fault, place, other⟩) machine)
  | signal (signal : Signal) (machine : Machine) :
      Concurs alike (.error (.signal signal) machine) (.error (.signal signal) machine)
  | crashed (crash : Crash) (machine : Machine) :
      Concurs alike (.error (.crashed crash) machine) (.error (.crashed crash) machine)
  | outOfFuel (machine : Machine) :
      Concurs alike (.error .outOfFuel machine) (.error .outOfFuel machine)

/--
What bindings and calls change is the same in two machines.  Functions of the language are at
most added.
-/
structure Still (before after : Machine) : Prop where
  depth : after.depth = before.depth
  tables : after.heap.tables = before.heap.tables
  builtins : before.heap.builtins.toList <+: after.heap.builtins.toList

theorem Still.refl (machine : Machine) : Still machine machine :=
  ⟨rfl, rfl, List.prefix_rfl⟩

theorem Still.trans {first second third : Machine} (before : Still first second)
    (after : Still second third) : Still first third :=
  ⟨after.depth.trans before.depth, after.tables.trans before.tables,
    before.builtins.trans after.builtins⟩

theorem Still.of_heap {machine : Machine} {heap : Heap}
    (kept : heap.tables = machine.heap.tables ∧ heap.builtins = machine.heap.builtins) :
    Still machine { machine with heap := heap } where
  depth := rfl
  tables := kept.1
  builtins := kept.2 ▸ List.prefix_rfl

/-- Two actions do the same, and it is neither a call nor a binding nor a local signal. -/
structure Elementary (alike : Trail → Trail → Prop) {α : Type} (action other : Action α) :
    Prop where
  concurs : ∀ machine, Concurs alike (action machine) (other machine)
  still : ∀ machine, Still machine (finalMachine (action machine))
  silent : ∀ {machine signal after}, action machine = .error (.signal signal) after →
    signal.isLocal = false

/-- Frames of the same code that were reached in different ways. -/
structure Frame.Parallel (alike : Trail → Trail → Prop) (frame other : Frame) : Prop where
  trail : alike frame.trail other.trail
  scope : other.scope = frame.scope
  exports : other.exports = frame.exports
  document : other.document = frame.document

/-- Calls of the same kind from parallel frames. -/
structure CallSite.Parallel (alike : Trail → Trail → Prop) (site other : CallSite) : Prop where
  frame : site.frame.Parallel alike other.frame
  span : other.span = site.span
  arguments : other.arguments = site.arguments

variable {alike : Trail → Trail → Prop} {α β : Type}

/-- What a sequence of two actions does, by the end of the first one. -/
theorem bind_apply (action : Action α) (next : α → Action β) (machine : Machine) :
    (action >>= next) machine =
      match action machine with
      | .ok value after => next value after
      | .error interrupt after => .error interrupt after := by
  change EStateM.bind action next machine = _
  unfold EStateM.bind
  cases action machine <;> rfl

theorem bind_of_error {action : Action α} {machine after : Machine} {interrupt : Interrupt}
    (ended : action machine = .error interrupt after) (next : α → Action β) :
    (action >>= next) machine = .error interrupt after := by
  rw [bind_apply, ended]

/-- A sequence is interrupted in its first action or in the second. -/
theorem bind_eq_error_iff {action : Action α} {next : α → Action β} {machine after : Machine}
    {interrupt : Interrupt} :
    (action >>= next) machine = .error interrupt after ↔
      action machine = .error interrupt after ∨
        ∃ value between, action machine = .ok value between ∧
          next value between = .error interrupt after := by
  rw [bind_apply]
  cases ended : action machine with
  | ok value between =>
      constructor
      · intro late
        exact .inr ⟨value, between, rfl, late⟩
      · rintro (early | ⟨_, _, same, late⟩)
        · cases early
        · cases same
          exact late
  | error other between => simp

namespace Concurs

/-- Sequences of concurring actions concur. -/
theorem bind {action other : Action α} {next otherNext : α → Action β} {machine : Machine}
    (first : Concurs alike (action machine) (other machine))
    (rest : ∀ value after, action machine = .ok value after →
      Concurs alike (next value after) (otherNext value after)) :
    Concurs alike ((action >>= next) machine) ((other >>= otherNext) machine) := by
  rw [bind_apply, bind_apply]
  generalize action machine = ending at first rest
  generalize other machine = otherEnding at first
  cases first with
  | value value after => exact rest value after rfl
  | error fault place after trails => exact .error fault place after trails
  | signal signal after => exact .signal signal after
  | crashed crash after => exact .crashed crash after
  | outOfFuel after => exact .outOfFuel after

end Concurs

namespace Elementary

/-- An action that gives a value in any case. -/
theorem of_value {action : Action α} (value : Machine → α) (change : Machine → Machine)
    (ends : ∀ machine, action machine = .ok (value machine) (change machine))
    (still : ∀ machine, Still machine (change machine)) : Elementary alike action action where
  concurs machine := by
    rw [ends]
    exact .value _ _
  still machine := by
    rw [ends]
    exact still machine
  silent ended := by
    rw [ends] at ended
    cases ended

theorem pure (value : α) : Elementary alike (Pure.pure value : Action α) (Pure.pure value) :=
  of_value (fun _ => value) id (fun _ => rfl) Still.refl

theorem bind {action other : Action α} {next otherNext : α → Action β}
    (first : Elementary alike action other)
    (rest : ∀ value, Elementary alike (next value) (otherNext value)) :
    Elementary alike (action >>= next) (other >>= otherNext) where
  concurs machine :=
    (first.concurs machine).bind fun value after _ => (rest value).concurs after
  still machine := by
    have before := first.still machine
    rw [bind_apply]
    cases ended : action machine with
    | ok value between =>
        rw [ended] at before
        exact before.trans ((rest value).still between)
    | error interrupt between =>
        rw [ended] at before
        exact before
  silent ended := by
    rcases bind_eq_error_iff.mp ended with early | ⟨value, between, _, late⟩
    · exact first.silent early
    · exact (rest value).silent late

/-- A choice made alike on both sides. -/
theorem ite {condition : Prop} [Decidable condition] {action other action' other' : Action α}
    (positive : condition → Elementary alike action other)
    (negative : ¬ condition → Elementary alike action' other') :
    Elementary alike (if condition then action else action')
      (if condition then other else other') := by
  by_cases decided : condition
  · rw [if_pos decided, if_pos decided]
    exact positive decided
  · rw [if_neg decided, if_neg decided]
    exact negative decided

/-! ## Errors -/

variable {frame other : Frame}

theorem crash (crash : Crash) :
    Elementary alike (throw (.crashed crash) : Action α) (throw (.crashed crash)) where
  concurs machine := .crashed crash machine
  still machine := Still.refl machine
  silent ended := nomatch ended

theorem raise (parallel : frame.Parallel alike other) (span : Span) (fault : Fault) :
    Elementary alike (raise frame span fault : Action α) (Evaluation.raise other span fault) where
  concurs machine := by
    have places : other.place span = frame.place span := by
      simp only [Frame.place, parallel.document]
    change Concurs alike (.error (.error ⟨fault, frame.place span, frame.trail⟩) machine)
      (.error (.error ⟨fault, other.place span, other.trail⟩) machine)
    rw [places]
    exact .error fault _ machine parallel.trail
  still machine := Still.refl machine
  silent ended := by cases ended

/-- An operation of the machine that gives a value, or a reason to fail in a frame. -/
theorem of_fallible {ε : Type} (action : Frame → Action α) (fail : Frame → ε → Action α)
    (operation : Machine → Except ε α × Machine)
    (ends : ∀ frame machine, action frame machine =
      match operation machine with
      | (.ok value, after) => .ok value after
      | (.error reason, after) => fail frame reason after)
    (still : ∀ machine, Still machine (operation machine).2)
    (failing : ∀ reason, Elementary alike (fail frame reason) (fail other reason)) :
    Elementary alike (action frame) (action other) where
  concurs machine := by
    rw [ends, ends]
    rcases operation machine with ⟨reason | value, after⟩
    · exact (failing reason).concurs after
    · exact .value value after
  still machine := by
    have kept := still machine
    rw [ends]
    generalize operation machine = result at kept
    rcases result with ⟨reason | value, after⟩
    · exact kept.trans ((failing reason).still after)
    · exact kept
  silent {machine signal after} ended := by
    rw [ends] at ended
    generalize operation machine = result at ended
    rcases result with ⟨reason | value, between⟩
    · exact (failing reason).silent ended
    · cases ended

/-! ## The heap and the console -/

theorem readHeap (look : Heap → α) : Elementary alike (readHeap look) (Evaluation.readHeap look) :=
  of_value (fun machine => look machine.heap) id (fun _ => rfl) Still.refl

theorem get : Elementary alike (MonadState.get : Action Machine) MonadState.get :=
  of_value id id (fun _ => rfl) Still.refl

/-- Something is created, and it is not a scope table or a function of the language. -/
theorem create {make : Heap → α × Heap}
    (kept : ∀ heap, (make heap).2.tables = heap.tables ∧ (make heap).2.builtins = heap.builtins) :
    Elementary alike (create make) (Evaluation.create make) :=
  of_value (fun machine => (make machine.heap).1)
    (fun machine => { machine with heap := (make machine.heap).2 }) (fun _ => rfl)
    (fun machine => .of_heap (kept machine.heap))

/-- Something is changed, and it is not a scope table or a function of the language. -/
theorem changeHeap {change : Heap → Heap}
    (kept : ∀ heap, (change heap).tables = heap.tables ∧ (change heap).builtins = heap.builtins) :
    Elementary alike (changeHeap change) (Evaluation.changeHeap change) :=
  of_value (fun _ => ()) (fun machine => { machine with heap := change machine.heap })
    (fun _ => rfl) (fun machine => .of_heap (kept machine.heap))

theorem newList (items : List Value) :
    Elementary alike (newList items) (Evaluation.newList items) :=
  (create fun _ => ⟨rfl, rfl⟩).bind fun _ => pure _

theorem realize (product : Data.Product) :
    Elementary alike (realize product) (Evaluation.realize product) := by
  cases product with
  | value made => exact pure made
  | list items => exact newList items
  | overgrown overgrowth => exact crash _

theorem check (parallel : frame.Parallel alike other) (span : Span)
    (operation : Heap → Except Fault α) :
    Elementary alike (check frame span operation) (Evaluation.check other span operation) := by
  refine of_fallible (Evaluation.check · span operation) (Evaluation.raise · span)
    (fun machine => (operation machine.heap, machine)) ?_ Still.refl (raise parallel span)
  intro frame machine
  unfold Evaluation.check
  cases operation machine.heap <;> rfl

theorem printText (parallel : frame.Parallel alike other) (span : Span) (text : String) :
    Elementary alike (printText frame span text) (Evaluation.printText other span text) := by
  refine of_fallible (Evaluation.printText · span text)
    (fun frame reason => Evaluation.raise frame span (.system reason))
    (fun machine =>
      (machine.console.write? text).elim (.error outputClosed, machine)
        fun console => (.ok (), { machine with console := console }))
    ?_ ?_ fun reason => raise parallel span (.system reason)
  · intro frame machine
    unfold Evaluation.printText
    cases machine.console.write? text <;> rfl
  · intro machine
    cases machine.console.write? text <;> exact ⟨rfl, rfl, List.prefix_rfl⟩

theorem readLine (parallel : frame.Parallel alike other) (span : Span) :
    Elementary alike (readLine frame span) (Evaluation.readLine other span) := by
  refine of_fallible (Evaluation.readLine · span)
    (fun frame error => Evaluation.raise frame span (.system error.message))
    (fun machine =>
      (machine.console.readLine.1, { machine with console := machine.console.readLine.2 }))
    ?_ (fun machine => ⟨rfl, rfl, List.prefix_rfl⟩) fun error => raise parallel span (.system error.message)
  intro frame machine
  simp only [Evaluation.readLine]
  cases machine.console.readLine.1 <;> rfl

/-! ## Names -/

theorem raiseUndefined (parallel : frame.Parallel alike other) (span : Span) (name : String) :
    Elementary alike (raiseUndefined frame span name : Action α)
      (Evaluation.raiseUndefined other span name) := by
  unfold Evaluation.raiseUndefined
  rw [parallel.scope]
  exact (readHeap _).bind fun _ => raise parallel span _

theorem lookUp (parallel : frame.Parallel alike other) (span : Span) (name : String) :
    Elementary alike (lookUp frame span name) (Evaluation.lookUp other span name) := by
  unfold Evaluation.lookUp
  rw [parallel.scope]
  refine (readHeap _).bind fun found => ?_
  cases found with
  | some value => exact pure value
  | none => exact raiseUndefined parallel span name

/-! ## Files -/

theorem raiseFile (parallel : frame.Parallel alike other) (span : Span) (target : String)
    (error : Files.FileError) :
    Elementary alike (raiseFile frame span target error : Action α)
      (Evaluation.raiseFile other span target error) := by
  cases error <;> exact raise parallel span _

theorem writeFile (settings : Settings) (parallel : frame.Parallel alike other) (span : Span)
    (target text : String) (overwrite : Bool) (line : Option Nat) :
    Elementary alike (writeFile settings frame span target text overwrite line)
      (Evaluation.writeFile settings other span target text overwrite line) := by
  refine of_fallible (Evaluation.writeFile settings · span target text overwrite line)
    (Evaluation.raiseFile · span target)
    (fun machine =>
      let written := writtenFiles machine.files (settings.resolve target) text overwrite line
      (written.map fun _ => (),
        { machine with files := written.toOption.getD machine.files }))
    ?_ ?_ (raiseFile parallel span target)
  · intro frame machine
    unfold Evaluation.writeFile
    cases writtenFiles machine.files (settings.resolve target) text overwrite line <;> rfl
  · intro machine
    exact ⟨rfl, rfl, List.prefix_rfl⟩

theorem readFile (settings : Settings) (parallel : frame.Parallel alike other) (span : Span)
    (target : String) (line : Option Nat) :
    Elementary alike (readFile settings frame span target line)
      (Evaluation.readFile settings other span target line) := by
  refine get.bind fun machine => ?_
  split
  · exact raiseFile parallel span target _
  · exact pure _
  · split
    · exact pure _
    · exact raise parallel span _

end Elementary

/-! ## Functions of the language -/

/-- Calls of the same function of the language from parallel frames. -/
structure BuiltinCall.Parallel (alike : Trail → Trail → Prop) (call other : BuiltinCall) :
    Prop where
  name : other.name = call.name
  frame : call.frame.Parallel alike other.frame
  site : call.site.Parallel alike other.site

namespace Elementary

variable {call other : BuiltinCall}

theorem raiseCall (parallel : call.Parallel alike other) (fault : Fault) :
    Elementary alike (call.raise fault : Action α) (other.raise fault) := by
  unfold BuiltinCall.raise
  rw [parallel.site.span]
  exact raise parallel.frame call.site.span fault

theorem checkCall (parallel : call.Parallel alike other) (operation : Heap → Except Fault α) :
    Elementary alike (call.check operation) (other.check operation) := by
  unfold BuiltinCall.check
  rw [parallel.site.span]
  exact check parallel.frame call.site.span operation

theorem raiseAt (parallel : call.Parallel alike other) (ordinal : Nat) (fault : Fault) :
    Elementary alike (call.raiseAt ordinal fault : Action α) (other.raiseAt ordinal fault) := by
  unfold BuiltinCall.raiseAt
  rw [parallel.site.arguments]
  cases call.site.arguments[ordinal - 1]? with
  | some span => exact raise parallel.site.frame span fault
  | none => exact raiseCall parallel fault

theorem mismatch (parallel : call.Parallel alike other) (ordinal : Nat) (expected : String)
    (value : Value) :
    Elementary alike (call.mismatch ordinal expected value : Action α)
      (other.mismatch ordinal expected value) := by
  unfold BuiltinCall.mismatch
  rw [parallel.name]
  exact (readHeap _).bind fun _ => raiseAt parallel ordinal _

theorem listAt (parallel : call.Parallel alike other) (ordinal : Nat) (value : Value) :
    Elementary alike (call.listAt ordinal value) (other.listAt ordinal value) := by
  unfold BuiltinCall.listAt
  split
  · exact pure _
  · exact mismatch parallel ordinal _ value

theorem intAt (parallel : call.Parallel alike other) (ordinal : Nat) (value : Value) :
    Elementary alike (call.intAt ordinal value) (other.intAt ordinal value) := by
  unfold BuiltinCall.intAt
  split
  · exact pure _
  · exact mismatch parallel ordinal _ value

theorem textAt (parallel : call.Parallel alike other) (ordinal : Nat) (value : Value) :
    Elementary alike (call.textAt ordinal value) (other.textAt ordinal value) := by
  unfold BuiltinCall.textAt
  split
  · exact pure _
  · exact mismatch parallel ordinal _ value

theorem numberAt (parallel : call.Parallel alike other) (ordinal : Nat) (value : Value) :
    Elementary alike (call.numberAt ordinal value) (other.numberAt ordinal value) := by
  unfold BuiltinCall.numberAt
  split
  · exact pure _
  · exact mismatch parallel ordinal _ value

theorem runPrint (parallel : call.Parallel alike other) (values : List Value) :
    Elementary alike (runPrint call values) (Evaluation.runPrint other values) := by
  unfold Evaluation.runPrint
  rw [parallel.site.span]
  exact (readHeap _).bind fun _ => (printText parallel.frame _ _).bind fun _ => pure _

theorem runInput (parallel : call.Parallel alike other) (prompt : Value) :
    Elementary alike (runInput call prompt) (Evaluation.runInput other prompt) := by
  unfold Evaluation.runInput
  rw [parallel.site.span]
  exact (readHeap _).bind fun _ => (printText parallel.frame _ _).bind fun _ =>
    (readLine parallel.frame _).bind fun _ => pure _

theorem changeList (id : Data.ListId) (change : List Value → List Value) :
    Elementary alike (changeList id change) (Evaluation.changeList id change) := by
  refine bind (changeHeap ?_) fun _ => pure _
  intro heap
  exact ⟨rfl, rfl⟩

theorem runAppend (parallel : call.Parallel alike other) (list value : Value) :
    Elementary alike (runAppend call list value) (Evaluation.runAppend other list value) :=
  (listAt parallel 1 list).bind fun id => changeList id _

theorem runPop (parallel : call.Parallel alike other) (list index : Value) :
    Elementary alike (runPop call list index) (Evaluation.runPop other list index) := by
  refine (listAt parallel 1 list).bind fun id => (intAt parallel 2 index).bind fun index => ?_
  refine (readHeap _).bind fun items => ?_
  split
  · exact (changeList id _).bind fun _ => pure _
  · exact raiseAt parallel 2 _

theorem runInsert (parallel : call.Parallel alike other) (list index value : Value) :
    Elementary alike (runInsert call list index value)
      (Evaluation.runInsert other list index value) :=
  (listAt parallel 1 list).bind fun id => (intAt parallel 2 index).bind fun _ => changeList id _

theorem runExtend (parallel : call.Parallel alike other) (list more : Value) :
    Elementary alike (runExtend call list more) (Evaluation.runExtend other list more) :=
  (listAt parallel 1 list).bind fun id => (listAt parallel 2 more).bind fun _ =>
    (readHeap _).bind fun _ => changeList id _

theorem runReverse (parallel : call.Parallel alike other) (list : Value) :
    Elementary alike (runReverse call list) (Evaluation.runReverse other list) :=
  (listAt parallel 1 list).bind fun id => changeList id _

theorem runSort (parallel : call.Parallel alike other) (list : Value) :
    Elementary alike (runSort call list) (Evaluation.runSort other list) := by
  refine (listAt parallel 1 list).bind fun id => (readHeap _).bind fun items => ?_
  split
  · exact changeList id _
  · exact raiseCall parallel _

theorem runDefined (parallel : call.Parallel alike other) (name : Value) :
    Elementary alike (runDefined call name) (Evaluation.runDefined other name) := by
  unfold Evaluation.runDefined
  rw [parallel.frame.scope]
  exact (textAt parallel 1 name).bind fun _ => (readHeap _).bind fun _ => pure _

/-- An exit is the one signal that a function of the language sends. -/
theorem exit (code : Int32) :
    Elementary alike (throw (.signal (.exited code)) : Action α)
      (throw (.signal (.exited code))) where
  concurs machine := .signal _ machine
  still machine := Still.refl machine
  silent ended := by
    cases ended
    rfl

theorem runExit (parallel : call.Parallel alike other) (code : Value) :
    Elementary alike (runExit call code) (Evaluation.runExit other code) :=
  (intAt parallel 1 code).bind fun code => exit (exitCode code)

theorem runReal (parallel : call.Parallel alike other) (compute : Float → Float)
    (value : Value) :
    Elementary alike (runReal call compute value) (Evaluation.runReal other compute value) :=
  (numberAt parallel 1 value).bind fun _ => pure _

theorem runSqrt (parallel : call.Parallel alike other) (value : Value) :
    Elementary alike (runSqrt call value) (Evaluation.runSqrt other value) :=
  (numberAt parallel 1 value).bind fun _ =>
    ite (fun _ => raiseAt parallel 1 _) (fun _ => pure _)

theorem runRound (parallel : call.Parallel alike other) (round : Float → Float)
    (value : Value) :
    Elementary alike (runRound call round value) (Evaluation.runRound other round value) := by
  unfold Evaluation.runRound
  split
  · exact pure _
  · exact (numberAt parallel 1 value).bind fun _ => checkCall parallel _

theorem fitted (parallel : call.Parallel alike other) (word : Option Int64) :
    Elementary alike (call.fitted word) (other.fitted word) := by
  unfold BuiltinCall.fitted
  rw [parallel.name]
  cases word with
  | some word => exact pure _
  | none => exact raiseCall parallel _

theorem runAbs (parallel : call.Parallel alike other) (value : Value) :
    Elementary alike (runAbs call value) (Evaluation.runAbs other value) := by
  unfold Evaluation.runAbs
  split
  · exact fitted parallel _
  · exact runReal parallel Float.abs _

/-- Whatever a function of the language does is elementary. -/
theorem runOperation (parallel : call.Parallel alike other) (operation : Operation)
    (arguments : Data.Arguments) :
    Elementary alike (runOperation call operation arguments)
      (Evaluation.runOperation other operation arguments) := by
  unfold Evaluation.runOperation
  split
  · exact runPrint parallel _
  · exact runInput parallel _
  · exact (readHeap _).bind fun _ => pure _
  · exact (readHeap _).bind fun _ => pure _
  · exact checkCall parallel _
  · exact checkCall parallel _
  · exact (checkCall parallel _).bind fun _ => newList _
  · exact (checkCall parallel _).bind fun _ => pure _
  · exact runAppend parallel _ _
  · exact runPop parallel _ _
  · exact runInsert parallel _ _ _
  · exact runExtend parallel _ _
  · exact runReverse parallel _
  · exact runSort parallel _
  · exact runDefined parallel _
  · exact runExit parallel _
  · exact runSqrt parallel _
  · exact runRound parallel _ _
  · exact runRound parallel _ _
  · exact runReal parallel _ _
  · exact runReal parallel _ _
  · exact runAbs parallel _
  · exact crash _

end Elementary

/-- A call of a function of the language begins unless its arguments do not fit. -/
theorem callBuiltin_apply (settings : Settings) (id : Data.BuiltinId)
    (arguments : List (Option Value)) (site : CallSite) (machine : Machine) :
    callBuiltin settings id arguments site machine =
      match (machine.heap.builtin id).bind arguments with
      | .error fault => raise site.frame site.span fault machine
      | .ok bound =>
          withinCall settings site.frame site.span
            (runOperation
              ⟨(machine.heap.builtin id).name, builtinFrame (machine.heap.builtin id) site, site⟩
              (machine.heap.builtin id).operation bound) machine := by
  unfold callBuiltin
  rw [bind_apply]
  simp only [readHeap, bind_apply, check]
  cases (machine.heap.builtin id).bind arguments <;> rfl

end Evaluation
end Scripting
