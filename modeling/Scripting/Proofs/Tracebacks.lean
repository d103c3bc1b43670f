import Mathlib
import Scripting.Proofs.LexicalScope
import Scripting.Session.Basic

namespace Scripting

/-!
Tracebacks name every frame.

A trail is a chain of frames from the program down, in which each frame but the first knows
its caller and the place at which it was entered.  Its lines pair every frame with the place
where the next one was entered, and the last one with the place of the error.

That no frame is lost on the way is a property of evaluation: an error in a frame has the
trail of that frame or one that goes on from it, and what a call, a class or an import enters
is entered at the place of the call, the class or the import.
-/

namespace Evaluation

open Data (Value)
open Program (Node)
open Source (Document Position Span)

/-! ## Chains of frames -/

/-- The trail of the frame that a frame was entered from. -/
def Trail.caller? : Trail → Option Trail
  | .root _ => none
  | .entered _ caller .. => some caller

/-- Where a frame was entered, in the text of its caller. -/
def Trail.origin? : Trail → Option (Document × Position)
  | .root _ => none
  | .entered _ _ document position => some (document, position)

/-- The trails of the frames on a trail, from the first one down. -/
def Trail.chain : Trail → List Trail
  | .root name => [.root name]
  | .entered name caller document position =>
      caller.chain ++ [.entered name caller document position]

/-- The frame at the end of a trail was reached from that at the end of another, or is the same. -/
inductive Trail.LeadsTo (base : Trail) : Trail → Prop
  | here : base.LeadsTo base
  | onward {caller : Trail} (name : String) (document : Document) (position : Position)
      (before : base.LeadsTo caller) : base.LeadsTo (.entered name caller document position)

/-- A frame of the chain knows its caller, and where in its text it was entered. -/
def Trail.Follows (outer inner : Trail) : Prop :=
  inner.caller? = some outer ∧ inner.origin?.isSome = true

theorem Trail.length_chain (trail : Trail) : trail.chain.length = trail.depth := by
  induction trail with
  | root name => rfl
  | entered name caller document position ih =>
      rw [chain, List.length_append, ih]
      rfl

theorem Trail.getLast?_chain (trail : Trail) : trail.chain.getLast? = some trail := by
  cases trail with
  | root name => rfl
  | entered name caller document position => rw [chain, List.getLast?_concat]

theorem Trail.isChain_chain (trail : Trail) : trail.chain.IsChain Trail.Follows := by
  induction trail with
  | root name => exact List.isChain_singleton _
  | entered name caller document position ih =>
      refine ih.append (List.isChain_singleton _) ?_
      intro outer last inner first
      rw [caller.getLast?_chain] at last
      cases last
      cases first
      exact ⟨rfl, rfl⟩

/-- A frame that was reached from the program begins with it. -/
theorem Trail.LeadsTo.head?_chain {name : String} {trail : Trail}
    (leads : (Trail.root name).LeadsTo trail) : trail.chain.head? = some (.root name) := by
  induction leads with
  | here => rfl
  | onward name document position before ih => rw [chain, List.head?_append, ih, Option.some_or]

theorem Trail.linked_of_mem {name : String} {trail frame : Trail}
    (leads : (Trail.root name).LeadsTo trail) (member : frame ∈ trail.chain)
    (other : frame ≠ .root name) : frame.caller?.isSome = true ∧ frame.origin?.isSome = true := by
  induction leads with
  | here => exact absurd (List.mem_singleton.mp member) other
  | onward inner document position before ih =>
      rcases List.mem_append.mp member with earlier | last
      · exact ih earlier
      · rw [List.mem_singleton.mp last]
        exact ⟨rfl, rfl⟩

/-! ## Lines of a traceback -/

theorem Trail.getLast?_lines (trail : Trail) (document : Document) (position : Position) :
    (trail.lines document position).getLast? =
      some (tracebackLine document position trail.name) := by
  cases trail with
  | root name => rfl
  | entered name caller entry place => rw [lines, List.getLast?_concat, Trail.name]

/-- Each frame but the last has a line with the place where it entered the next one. -/
theorem Trail.getElem?_lines {trail outer inner : Trail} {index : Nat}
    (first : trail.chain[index]? = some outer) (second : trail.chain[index + 1]? = some inner)
    (document : Document) (position : Position) :
    ∃ entry place, inner.origin? = some (entry, place) ∧
      (trail.lines document position)[index]? = some (tracebackLine entry place outer.name) := by
  induction trail generalizing document position with
  | root name => cases second
  | entered name caller entry place ih =>
      rw [chain] at first second
      have within := (List.getElem?_eq_some_iff.mp second).1
      rw [List.length_append, List.length_singleton] at within
      have early : index < caller.chain.length := by omega
      rw [List.getElem?_append_left early] at first
      have lined : index < (caller.lines entry place).length := by
        rwa [length_lines, ← length_chain]
      rw [lines, List.getElem?_append_left lined]
      by_cases last : index + 1 < caller.chain.length
      · rw [List.getElem?_append_left last] at second
        exact ih first second entry place
      · have length : caller.chain.length = index + 1 := by omega
        rw [List.getElem?_append_right (Nat.le_of_not_lt last), length, Nat.sub_self] at second
        cases second
        have ends := caller.getLast?_chain
        rw [List.getLast?_eq_getElem?, length, Nat.add_sub_cancel, first] at ends
        cases ends
        have spoken := outer.getLast?_lines entry place
        rw [List.getLast?_eq_getElem?, length_lines, ← length_chain, length,
          Nat.add_sub_cancel] at spoken
        exact ⟨entry, place, rfl, spoken⟩

theorem Trail.LeadsTo.head?_lines {name : String} {trail : Trail}
    (leads : (Trail.root name).LeadsTo trail) (document : Document) (position : Position) :
    ∃ entry place, (trail.lines document position).head? =
      some (tracebackLine entry place name) := by
  induction leads generalizing document position with
  | here => exact ⟨document, position, rfl⟩
  | onward inner entry place before ih =>
      rcases ih entry place with ⟨file, start, head⟩
      refine ⟨file, start, ?_⟩
      rw [lines, List.head?_append, head, Option.some_or]

/--
A traceback from the program down to an error leaves nothing out.  That links are there for
every frame but the program's, `linked` and `unlinked`, is so of every trail by how trails are
made; what is shown of the errors of a run is where their trail begins and how it goes on.
-/
structure RuntimeError.Traced (program : String) (error : RuntimeError) : Prop where
  begins : error.trail.chain.head? = some (.root program)
  ends : error.trail.chain.getLast? = some error.trail
  follows : error.trail.chain.IsChain Trail.Follows
  linked : ∀ frame ∈ error.trail.chain, frame ≠ .root program →
    frame.caller?.isSome = true ∧ frame.origin?.isSome = true
  unlinked : (Trail.root program).caller? = none ∧ (Trail.root program).origin? = none
  counted : error.tracebackLines.length = error.trail.depth
  first : ∃ document position,
    error.tracebackLines.head? = some (tracebackLine document position program)
  between : ∀ index outer inner, error.trail.chain[index]? = some outer →
    error.trail.chain[index + 1]? = some inner → ∃ document position,
      inner.origin? = some (document, position) ∧
        error.tracebackLines[index]? = some (tracebackLine document position outer.name)
  last : error.tracebackLines.getLast? =
    some (tracebackLine error.place.document error.place.span.start error.trail.name)

/-- Whatever goes on from the program has a complete traceback. -/
theorem Trail.LeadsTo.traced {program : String} {error : RuntimeError}
    (leads : (Trail.root program).LeadsTo error.trail) : error.Traced program where
  begins := leads.head?_chain
  ends := error.trail.getLast?_chain
  follows := error.trail.isChain_chain
  linked := fun _ member other => Trail.linked_of_mem leads member other
  unlinked := ⟨rfl, rfl⟩
  counted := error.trail.length_lines _ _
  first := leads.head?_lines _ _
  between := fun _ _ _ first second => Trail.getElem?_lines first second _ _
  last := error.trail.getLast?_lines _ _

/-! ## Trails of errors -/

/-- The errors that an action ends in have trails of the given kind. -/
def Traces {α : Type} (allowed : Trail → Prop) (action : Action α) : Prop :=
  ∀ machine error after, action machine = .error (.error error) after → allowed error.trail

/-- Equal trails of a given kind. -/
def sameTrail (allowed : Trail → Prop) (trail other : Trail) : Prop :=
  trail = other ∧ allowed trail

/-- Trails that go on from a given one. -/
def Comparison.beyond (base : Trail) : Comparison where
  alike := sameTrail base.LeadsTo
  entered name document position same := by
    rcases same with ⟨rfl, leads⟩
    exact ⟨rfl, .onward name document position leads⟩

variable {allowed : Trail → Prop} {α β : Type} {frame : Frame} {settings : Settings}

theorem Frame.Parallel.same (trail : allowed frame.trail) :
    frame.Parallel (sameTrail allowed) frame :=
  ⟨⟨rfl, trail⟩, rfl, rfl, rfl⟩

theorem Signal.trail_unclaimed {signal : Signal} {error : RuntimeError}
    (failed : signal.unclaimed frame = .error error) : error.trail = frame.trail := by
  cases signal <;> cases failed <;> rfl

namespace Traces

theorem of_concurs {action other : Action α}
    (concurs : ∀ machine, Concurs (sameTrail allowed) (action machine) (other machine)) :
    Traces allowed action := by
  intro machine error after ended
  have both := concurs machine
  rw [ended] at both
  generalize other machine = ending at both
  cases both with
  | error fault place after trails => exact trails.2

theorem of_elementary {action other : Action α}
    (elementary : Elementary (sameTrail allowed) action other) : Traces allowed action :=
  of_concurs elementary.concurs

theorem mono {weaker : Trail → Prop} {action : Action α} (traces : Traces allowed action)
    (implies : ∀ trail, allowed trail → weaker trail) : Traces weaker action :=
  fun machine error after ended => implies _ (traces machine error after ended)

theorem bind {action : Action α} {next : α → Action β} (first : Traces allowed action)
    (rest : ∀ value, Traces allowed (next value)) : Traces allowed (action >>= next) := by
  intro machine error after ended
  rcases bind_eq_error_iff.mp ended with early | ⟨value, between, -, late⟩
  · exact first machine error after early
  · exact rest value between error after late

/-- An action that gives a value in any case. -/
theorem of_value {action : Action α} (value : Machine → α) (change : Machine → Machine)
    (ends : ∀ machine, action machine = .ok (value machine) (change machine)) :
    Traces allowed action := by
  intro machine error after ended
  rw [ends] at ended
  cases ended

theorem pure (value : α) : Traces allowed (Pure.pure value) :=
  of_value (fun _ => value) id fun _ => rfl

theorem create (make : Data.Heap → α × Data.Heap) : Traces allowed (create make) :=
  of_value (fun machine => (make machine.heap).1)
    (fun machine => { machine with heap := (make machine.heap).2 }) fun _ => rfl

theorem look (read : Data.Heap → α) : Traces allowed (readHeap read) :=
  of_value (fun machine => read machine.heap) id fun _ => rfl

theorem bindName (name : String) (value : Value) : Traces allowed (bindName frame name value) :=
  of_value (fun _ => ())
    (fun machine =>
      { machine with heap := machine.heap.bind frame.scope.inner name value }) fun _ => rfl

theorem outOfFuel : Traces allowed (throw .outOfFuel : Action α) := by
  intro machine error after ended
  cases ended

theorem raise (trail : allowed frame.trail) (span : Span) (fault : Data.Fault) :
    Traces allowed (raise frame span fault : Action α) :=
  of_elementary (.raise (.same trail) span fault)

theorem check (trail : allowed frame.trail) (span : Span)
    (operation : Data.Heap → Except Data.Fault α) : Traces allowed (check frame span operation) :=
  of_elementary (.check (.same trail) span operation)

theorem withinCall {span : Span} {action : Action α} (trail : allowed frame.trail)
    (body : Traces allowed action) : Traces allowed (withinCall settings frame span action) := by
  intro machine error after ended
  unfold Evaluation.withinCall at ended
  split at ended
  · exact raise trail span .recursionLimit machine error after ended
  · split at ended
    · cases ended
    · rename_i stopped
      cases ended
      exact body _ _ _ stopped

theorem contain {action : Action α} (trail : allowed frame.trail)
    (body : Traces allowed action) : Traces allowed (contain frame action) := by
  intro machine error after ended
  unfold Evaluation.contain at ended
  split at ended
  · cases ended
  · rw [Signal.trail_unclaimed (EStateM.Result.error.inj ended).1]
    exact trail
  · rename_i stopped
    cases ended
    exact body _ _ _ stopped

theorem catchReturn {action : Action Value} (trail : allowed frame.trail)
    (body : Traces allowed action) : Traces allowed (catchReturn frame action) := by
  intro machine error after ended
  unfold Evaluation.catchReturn at ended
  split at ended
  · cases ended
  · cases ended
  · rw [Signal.trail_unclaimed (EStateM.Result.error.inj ended).1]
    exact trail
  · rename_i stopped
    cases ended
    exact body _ _ _ stopped

end Traces

/-- What is evaluated in a frame fails in that frame or in one that was reached from it. -/
theorem evaluate_traces (settings : Settings) (fuel : Nat) (node : Node) (frame : Frame) :
    Traces frame.trail.LeadsTo (perform settings fuel (.evaluate node frame)) := by
  have alone := Pairing.ofFuel_concurring (.beyond frame.trail) settings fuel
  exact .of_concurs fun machine => alone.evaluate node (.same .here) machine

/-! ## Calls -/

/-- A trail of a frame, or one that goes on from a place in its text. -/
def Frame.GoesOn (frame : Frame) (span : Span) (trail : Trail) : Prop :=
  trail = frame.trail ∨ ∃ name, (frame.enter name span).LeadsTo trail

theorem Frame.GoesOn.here (frame : Frame) (span : Span) : frame.GoesOn span frame.trail :=
  .inl rfl

theorem Frame.GoesOn.entered (frame : Frame) (span : Span) (name : String) :
    frame.GoesOn span (frame.enter name span) :=
  .inr ⟨name, .here⟩

namespace Traces

variable {site : CallSite} {fuel : Nat}

theorem bindRequired (function : Data.Function) (inside : Frame) (required : List String)
    (arguments : List (Option Value)) :
    Traces (site.frame.GoesOn site.span)
      (bindRequired site inside function required arguments) := by
  induction required generalizing arguments with
  | nil => exact pure _
  | cons parameter parameters ih =>
      match arguments with
      | some value :: rest => exact (bindName parameter value).bind fun _ => ih rest
      | none :: rest => exact raise (.here _ _) _ _
      | [] => exact raise (.here _ _) _ _

theorem bindOptional (inside : Frame) (optional : List (String × Node))
    (arguments : List (Option Value)) :
    Traces inside.trail.LeadsTo (bindOptional (perform settings fuel) inside optional arguments) := by
  induction optional generalizing arguments with
  | nil => exact pure ()
  | cons entry optional ih =>
      rcases entry with ⟨parameter, default⟩
      have evaluated := evaluate_traces settings fuel default inside
      match arguments with
      | some value :: rest => exact (bindName parameter value).bind fun _ => ih rest
      | none :: rest =>
          exact evaluated.bind fun value => (bindName parameter value).bind fun _ => ih rest
      | [] => exact evaluated.bind fun value => (bindName parameter value).bind fun _ => ih []

/-- Defaults and the body of a function are evaluated in a frame entered at the call. -/
theorem callFunction (id : Data.FunctionId) (arguments : List (Option Value)) :
    Traces (site.frame.GoesOn site.span)
      (callFunction (perform settings fuel) settings id arguments site) := by
  refine (look _).bind fun function => ?_
  cases arityFault? function arguments.length with
  | some fault => exact raise (.here _ _) _ _
  | none =>
      refine withinCall (.here _ _) ((create _).bind fun scope => ?_)
      refine (bindRequired function _ _ _).bind fun rest => ?_
      have inside : ∀ trail, (calleeFrame function site scope).trail.LeadsTo trail →
          site.frame.GoesOn site.span trail := fun trail leads => .inr ⟨function.name, leads⟩
      refine ((bindOptional _ _ _).mono inside).bind fun _ => ?_
      have body := evaluate_traces settings fuel function.body (calleeFrame function site scope)
      exact catchReturn (.entered _ _ _) ((body.mono inside).bind fun value => pure _)

theorem callBuiltin (id : Data.BuiltinId) (arguments : List (Option Value)) :
    Traces (site.frame.GoesOn site.span) (callBuiltin settings id arguments site) := by
  refine (look _).bind fun builtin => (check (.here _ _) _ _).bind fun bound => ?_
  refine withinCall (.here _ _) (of_elementary (.runOperation ⟨rfl, ?_, ?_⟩ _ _))
  · unfold builtinFrame
    split
    · exact .same (.here _ _)
    · exact .same (.entered _ _ _)
  · exact ⟨.same (.here _ _), rfl, rfl⟩

theorem callSequence (sequence : Value) (arguments : List (Option Value)) :
    Traces (site.frame.GoesOn site.span) (callSequence sequence arguments site) := by
  unfold Evaluation.callSequence
  split
  · exact check (.here _ _) _ _
  · exact (look _).bind fun type => raise (.here _ _) _ _

theorem callValue {self : Evaluator} (callee : Value) (arguments : List (Option Value))
    (function : ∀ id values,
      Traces (site.frame.GoesOn site.span) (Evaluation.callFunction self settings id values site))
    (again : ∀ member values,
      Traces (site.frame.GoesOn site.span) (self (.call member values site))) :
    Traces (site.frame.GoesOn site.span) (callValue self settings callee arguments site) := by
  have notCallable : ∀ value, Traces (site.frame.GoesOn site.span)
      (do Evaluation.raise site.frame site.span (.notCallable (← typeName value)) : Action Value) :=
    fun value => (look _).bind fun type => raise (.here _ _) _ _
  cases callee with
  | function id => exact function id arguments
  | method id receiver => exact function id _
  | builtin id => exact callBuiltin id arguments
  | constructor id =>
      refine (create _).bind fun object => (look _).bind fun member => ?_
      cases member with
      | some member => exact (again member arguments).bind fun _ => pure _
      | none =>
          change Traces _ (if _ then _ else _)
          split
          · exact pure _
          · exact (look _).bind fun name => raise (.here _ _) _ _
  | list id => exact callSequence _ arguments
  | text value => exact callSequence _ arguments
  | nothing => exact notCallable _
  | int value => exact notCallable _
  | float value => exact notCallable _
  | library id => exact notCallable _
  | object id => exact notCallable _

end Traces

/-- What is called from a frame fails there, or in a frame that was entered at the call. -/
theorem call_traces (settings : Settings) (fuel : Nat) (callee : Value)
    (arguments : List (Option Value)) (site : CallSite) :
    Traces (site.frame.GoesOn site.span) (perform settings fuel (.call callee arguments site)) := by
  induction fuel generalizing callee arguments with
  | zero => exact .outOfFuel
  | succ fuel ih => exact .callValue callee arguments Traces.callFunction ih

/-! ## Classes and modules -/

theorem class_traces (settings : Settings) (fuel : Nat) (frame : Frame) (span : Span)
    (name : String) (body : Node) :
    Traces (frame.GoesOn span) (runClassBody (perform settings fuel) frame span name body) := by
  refine (Traces.create _).bind fun scope => .bind ?_ fun _ => .pure scope
  have inside := evaluate_traces settings fuel body
    ⟨frame.enter s!"<class {name}>" span, scope, none, frame.document⟩
  exact .contain (.entered _ _ _) (inside.mono fun trail leads => .inr ⟨_, leads⟩)

theorem module_traces (settings : Settings) (fuel : Nat) (frame : Frame) (span : Span)
    (name path : String) :
    Traces (frame.GoesOn span)
      (loadModule (perform settings fuel) settings frame span name path) := by
  have machine : Traces (frame.GoesOn span) (get : Action Machine) :=
    .of_value id id fun _ => rfl
  refine machine.bind fun machine => ?_
  split
  · exact .raise (.here _ _) _ _
  · rename_i text _
    split
    · intro machine error after ended
      cases ended
      exact .entered _ _ _
    · rename_i program _
      refine .withinCall (.here _ _) ?_
      simp only [moduleBody, openModule, bind_assoc, pure_bind]
      refine (Traces.create _).bind fun scope => (Traces.create _).bind fun exports => ?_
      refine .bind ?_ fun _ => .look _
      have inside := evaluate_traces settings fuel program
        ⟨frame.enter s!"<module {name}>" span, scope, some exports, ⟨path, text⟩⟩
      exact .contain (.entered _ _ _) (inside.mono fun trail leads => .inr ⟨_, leads⟩)

end Evaluation

namespace Session

open Data (Value)
open Evaluation (CallSite Frame RuntimeError Settings Traces perform)
open Program (Node)
open Source (Document Position Span)

/-! ## Sessions -/

/-- A run from the state fails with the error. -/
inductive State.FailsWith (state : State) (error : RuntimeError) : Prop
  | evaluate (fuel : Nat) (document : Document) (program : Node)
      (failed : (state.evaluate fuel document program).1 = .failed error)
  | run (fuel : Nat) (document : Document) (failed : (state.run fuel document).1 = .failed error)
  | runFile (fuel : Nat) (path : String) (failed : (state.runFile fuel path).1 = .failed error)

theorem State.trail_of_evaluate {state : State} {fuel : Nat} {document : Document}
    {program : Node} {error : RuntimeError}
    (failed : (state.evaluate fuel document program).1 = .failed error) :
    (programFrame document).trail.LeadsTo error.trail := by
  have traces := Evaluation.evaluate_traces state.settings fuel program (programFrame document)
  simp only [State.evaluate] at failed
  cases ended : perform state.settings fuel (.evaluate program (programFrame document))
      state.machine with
  | ok value machine =>
      rw [ended] at failed
      cases failed
  | error interrupt machine =>
      rw [ended] at failed
      rcases interrupt with raised | signal | _ | _
      · cases failed
        exact traces _ _ _ ended
      · cases signal <;> cases failed <;> exact .here
      · cases failed
      · cases failed

/-- Every way to run a program evaluates it in the frame of the program. -/
theorem State.FailsWith.trail {state : State} {error : RuntimeError}
    (fails : state.FailsWith error) :
    (Evaluation.Trail.root programName).LeadsTo error.trail := by
  have run : ∀ {fuel document}, (state.run fuel document).1 = .failed error →
      (Evaluation.Trail.root programName).LeadsTo error.trail := by
    intro fuel document failed
    unfold State.run at failed
    generalize Grammar.readProgram state.switches document.text = reading at failed
    rcases reading with ⟨rejected | program, switches⟩
    · cases failed
    · exact State.trail_of_evaluate failed
  cases fails with
  | evaluate fuel document program failed => exact State.trail_of_evaluate failed
  | run fuel document failed => exact run failed
  | runFile fuel path failed =>
      unfold State.runFile at failed
      cases read : state.machine.files.readText path with
      | error unread =>
          rw [read] at failed
          cases failed
      | ok text =>
          rw [read] at failed
          exact run failed

/--
Whatever run fails, its traceback begins with the program, has a line for each frame down to
the one that failed, and says of each frame where it entered the next one.  No frame is missing:
an error in any frame goes on from that frame, and an error in what a call, a class or an import
has entered goes on from the place of the call, the class or the import.
-/
theorem traceback_complete {state : State} {error : RuntimeError} (fails : state.FailsWith error) :
    error.Traced "<program>" ∧
    ∀ (settings : Settings) (fuel : Nat) (frame : Frame) (span : Span),
      (∀ node, Traces frame.trail.LeadsTo (perform settings fuel (.evaluate node frame))) ∧
      (∀ callee arguments places, Traces (frame.GoesOn span)
        (perform settings fuel (.call callee arguments ⟨frame, span, places⟩))) ∧
      (∀ name body, Traces (frame.GoesOn span)
        (Evaluation.runClassBody (perform settings fuel) frame span name body)) ∧
      (∀ name path, Traces (frame.GoesOn span)
        (Evaluation.loadModule (perform settings fuel) settings frame span name path)) := by
  refine ⟨fails.trail.traced, fun settings fuel frame span => ⟨?_, ?_, ?_, ?_⟩⟩
  · exact fun node => Evaluation.evaluate_traces settings fuel node frame
  · exact fun callee arguments places =>
      Evaluation.call_traces settings fuel callee arguments ⟨frame, span, places⟩
  · exact Evaluation.class_traces settings fuel frame span
  · exact Evaluation.module_traces settings fuel frame span

namespace Stray

def spot (line column : Nat) : Position := ⟨0, line, column⟩

/-- A function whose second line is a jump out of no loop. -/
def define : Node :=
  ⟨⟨spot 0 0, spot 2 3⟩, .function (some "f") [] [] ⟨⟨spot 1 2, spot 1 7⟩, .breakLoop none⟩ false⟩

/-- The function is called behind its definition. -/
def program : Node :=
  ⟨⟨spot 0 0, spot 3 3⟩,
    .block [define, ⟨⟨spot 3 0, spot 3 3⟩, .call ⟨⟨spot 3 0, spot 3 1⟩, .name "f"⟩ []⟩]⟩

def document : Document := ⟨"main.ql", "def f()\n  break\nend\nf()"⟩

/-- The error of the jump, in the frame of the function. -/
def error : RuntimeError where
  fault := Evaluation.strayJump .leave none
  place := ⟨document, ⟨spot 1 2, spot 1 7⟩⟩
  trail := .entered "f" (.root programName) document (spot 3 0)

end Stray

/-- An error in a function that the program has called. -/
theorem stray_jump_traced :
    (start {} {} {}).FailsWith Stray.error ∧ Stray.error.Traced "<program>" ∧
      Stray.error.tracebackLines =
        ["  In file main.ql, line 4, in <program>:", "  In file main.ql, line 2, in f:"] := by
  have fails : (start {} {} {}).FailsWith Stray.error :=
    .evaluate 6 Stray.document Stray.program rfl
  exact ⟨fails, (traceback_complete fails).1, by decide +kernel⟩

end Session
end Scripting
