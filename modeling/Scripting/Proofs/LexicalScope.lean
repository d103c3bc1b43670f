import Scripting.Proofs.Composition

namespace Scripting
namespace Evaluation

/-!
Names are looked up where code is written.

A frame is reached through a chain of callers, which is kept as its trail.  No
part of evaluation looks at it: two runs of the same code in frames that differ
in their trails take the same steps, and end with the same machine and in the
same way.  Only an error carries the trail along, to be reported.
-/

open Data (TableId Value)
open Program (Node)

variable {alike : Trail → Trail → Prop} {pair : Pairing} {own : List TableId}
  {frame frame' : Frame} {α : Type}

namespace Concurs

/-- A signal that nothing asks for becomes the same error on either side. -/
theorem unclaimed (parallel : frame.Parallel alike frame') (signal : Signal)
    (machine : Machine) :
    Concurs alike (.error (signal.unclaimed frame) machine : Ending α)
      (.error (signal.unclaimed frame') machine) := by
  cases signal with
  | returned value place => exact .error _ place machine parallel.trail
  | jumped jump label place => exact .error _ place machine parallel.trail
  | exited code => exact .signal _ machine

theorem contain (parallel : frame.Parallel alike frame') {action action' : Action α}
    {machine : Machine} (body : Concurs alike (action machine) (action' machine)) :
    Concurs alike (contain frame action machine) (Evaluation.contain frame' action' machine) := by
  unfold Evaluation.contain
  generalize action machine = ending at body
  generalize action' machine = ending' at body
  cases body with
  | value value after => exact .value value after
  | error fault place after trails => exact .error fault place after trails
  | signal signal after => exact unclaimed parallel signal after
  | crashed crash after => exact .crashed crash after
  | outOfFuel after => exact .outOfFuel after

theorem catchReturn (parallel : frame.Parallel alike frame') {action action' : Action Value}
    {machine : Machine} (body : Concurs alike (action machine) (action' machine)) :
    Concurs alike (catchReturn frame action machine)
      (Evaluation.catchReturn frame' action' machine) := by
  unfold Evaluation.catchReturn
  generalize action machine = ending at body
  generalize action' machine = ending' at body
  cases body with
  | value value after => exact .value value after
  | error fault place after trails => exact .error fault place after trails
  | signal signal after =>
      cases signal with
      | returned value place => exact .value value after
      | jumped jump label place => exact unclaimed parallel (.jumped jump label place) after
      | exited code => exact .signal _ after
  | crashed crash after => exact .crashed crash after
  | outOfFuel after => exact .outOfFuel after

theorem answering {label : Option String} {action action' : Action Value} {machine : Machine}
    (body : Concurs alike (action machine) (action' machine)) :
    Concurs alike (answering label action machine)
      (Evaluation.answering label action' machine) := by
  unfold Evaluation.answering
  generalize action machine = ending at body
  generalize action' machine = ending' at body
  cases body with
  | value value after => exact .value _ after
  | error fault place after trails => exact .error fault place after trails
  | signal signal after =>
      cases signal with
      | returned value place => exact .signal _ after
      | jumped jump target place =>
          by_cases addressed : isAddressed target label = true
          · simp only [addressed, if_true]
            exact .value _ after
          · simp only [addressed]
            exact .signal _ after
      | exited code => exact .signal _ after
  | crashed crash after => exact .crashed crash after
  | outOfFuel after => exact .outOfFuel after

theorem withinCall {settings : Settings} {span : Source.Span}
    (parallel : frame.Parallel alike frame') {action action' : Action α}
    (body : ∀ machine, Concurs alike (action machine) (action' machine)) (machine : Machine) :
    Concurs alike (withinCall settings frame span action machine)
      (Evaluation.withinCall settings frame' span action' machine) := by
  unfold Evaluation.withinCall
  by_cases full : settings.maxDepth ≤ machine.depth
  · rw [if_pos full, if_pos full]
    exact (Elementary.raise parallel span .recursionLimit).concurs machine
  · rw [if_neg full, if_neg full]
    have inner := body { machine with depth := machine.depth + 1 }
    generalize action _ = ending at inner
    generalize action' _ = ending' at inner
    cases inner with
    | value value after => exact .value value _
    | error fault place after trails => exact .error fault place _ trails
    | signal signal after => exact .signal signal _
    | crashed crash after => exact .crashed crash _
    | outOfFuel after => exact .outOfFuel _

end Concurs

/-- Two evaluators end alike on tasks whose frames were reached in comparable ways. -/
structure Pairing.Concurring (pair : Pairing) : Prop where
  evaluate : ∀ (node : Node) {frame frame' : Frame}, frame.Parallel pair.alike frame' →
    ∀ machine, Concurs pair.alike (pair.self.eval node frame machine)
      (pair.other.eval node frame' machine)
  call : ∀ (callee : Value) (arguments : List (Option Value)) {site site' : CallSite},
    site.Parallel pair.alike site' → ∀ machine,
      Concurs pair.alike (pair.self (.call callee arguments site) machine)
        (pair.other (.call callee arguments site') machine)

/-- Actions that are composed alike of tasks that end alike do so themselves. -/
theorem Composed.concurs {action action' : Action α} (composed : Composed pair own action action')
    (tasks : pair.Concurring) (machine : Machine) :
    Concurs pair.alike (action machine) (action' machine) := by
  induction composed generalizing machine with
  | elementary same => exact same.concurs machine
  | signal signal => exact .signal signal machine
  | outOfFuel => exact .outOfFuel machine
  | bind first rest firstEnds restEnds =>
      exact (firstEnds machine).bind fun value after _ => restEnds value after
  | change owned change => exact .value () _
  | inside rest restEnds =>
      rw [bind_apply, bind_apply]
      exact restEnds _ _
  | evaluate node parallel owned => exact tasks.evaluate node parallel machine
  | call callee arguments parallel => exact tasks.call callee arguments parallel machine
  | withinCall parallel body bodyEnds => exact .withinCall parallel bodyEnds machine
  | contain parallel body bodyEnds => exact .contain parallel (bodyEnds machine)
  | catchReturn parallel body bodyEnds => exact .catchReturn parallel (bodyEnds machine)
  | answering label body bodyEnds => exact .answering (bodyEnds machine)

/-- Whatever is asked of trails, evaluation in comparable frames ends alike. -/
theorem Pairing.ofFuel_concurring (comparison : Comparison) (settings : Settings) (fuel : Nat) :
    (Pairing.ofFuel comparison settings fuel).Concurring := by
  induction fuel with
  | zero =>
      constructor
      · intro node frame frame' parallel machine
        exact .outOfFuel machine
      · intro callee arguments site site' parallel machine
        exact .outOfFuel machine
  | succ fuel ih =>
      constructor
      · intro node frame frame' parallel machine
        exact (perform_evaluate_composed node parallel).concurs ih machine
      · intro callee arguments site site' parallel machine
        exact (perform_call_composed callee arguments parallel).concurs ih machine

/-- Trails of which nothing is asked. -/
def Comparison.any : Comparison where
  alike _ _ := True
  entered _ _ _ _ := trivial

/--
The code of a frame does not depend on how the frame was reached.  Its name, its
callers and the places at which they entered it may be any others: the run ends
with the same machine, and with the same value, the same signal, or the same fault
at the same place.
-/
theorem evaluate_concurs_of_any_trail (settings : Settings) (fuel : Nat) (node : Node)
    (frame : Frame) (trail : Trail) (machine : Machine) :
    Concurs (fun _ _ => True) (perform settings fuel (.evaluate node frame) machine)
      (perform settings fuel (.evaluate node { frame with trail := trail }) machine) := by
  have parallel : frame.Parallel Comparison.any.alike { frame with trail := trail } :=
    ⟨trivial, rfl, rfl, rfl⟩
  exact (Pairing.ofFuel_concurring .any settings fuel).evaluate node parallel machine

end Evaluation
end Scripting
