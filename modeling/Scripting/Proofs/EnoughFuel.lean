import Scripting.Proofs.CallDepth
import Scripting.Proofs.HaltingForms
import Scripting.Session.Basic

namespace Scripting
namespace Evaluation

/-!
Enough fuel.

A run that comes to an end before its fuel does would have come to the same end with more: only
a run that is out of fuel can go on.  What more fuel does to a composed action follows from what
it does to the tasks that the action is composed of, since nothing between them asks how much is
left.  Only a loop does, for the number of its turns, and it makes the turns that it made before.
-/

open Data (Value)
open Program (LoopHeader Node)

/-- How an action may end with more fuel: as it did before, unless it ran out. -/
inductive Prolonged {α : Type} (ending later : Ending α) : Prop
  | settled (same : later = ending)
  | unfinished {machine : Machine} (stops : ending = .error .outOfFuel machine)

namespace Prolonged

variable {α β : Type} {ending later : Ending α}

theorem refl (ending : Ending α) : Prolonged ending ending :=
  .settled rfl

theorem trans {latest : Ending α} (first : Prolonged ending later)
    (second : Prolonged later latest) : Prolonged ending latest := by
  cases first with
  | settled same => exact same ▸ second
  | unfinished stops => exact .unfinished stops

theorem settles (prolonged : Prolonged ending later)
    (ends : ∀ machine, ending ≠ .error .outOfFuel machine) : later = ending := by
  cases prolonged with
  | settled same => exact same
  | unfinished stops => exact absurd stops (ends _)

/-- Whatever is made of an ending, if it does not hide that the fuel ran out. -/
theorem through (prolonged : Prolonged ending later) (finish : Ending α → Ending β)
    (starved : ∀ machine, ∃ after, finish (.error .outOfFuel machine) = .error .outOfFuel after) :
    Prolonged (finish ending) (finish later) := by
  cases prolonged with
  | settled same => exact .settled (congrArg finish same)
  | @unfinished machine stops =>
      obtain ⟨after, starves⟩ := starved machine
      exact .unfinished (stops ▸ starves)

theorem bind {action action' : Action α} {next next' : α → Action β} {machine : Machine}
    (first : Prolonged (action machine) (action' machine))
    (rest : ∀ value after, Prolonged (next value after) (next' value after)) :
    Prolonged ((action >>= next) machine) ((action' >>= next') machine) := by
  rw [bind_apply, bind_apply]
  cases first with
  | settled same =>
      rw [same]
      cases action machine with
      | ok value after => exact rest value after
      | error interrupt after => exact .refl _
  | unfinished stops =>
      rw [stops]
      exact .unfinished rfl

/-- An action that is the same whatever the fuel, and one after it that is prolonged. -/
theorem after (action : Action α) {next next' : α → Action β} {machine : Machine}
    (rest : ∀ value after, Prolonged (next value after) (next' value after)) :
    Prolonged ((action >>= next) machine) ((action >>= next') machine) :=
  bind (.refl (action machine)) rest

end Prolonged

/-- Every answer of an evaluator is prolonged by that of another one. -/
def Evaluator.ProlongedBy (self other : Evaluator) : Prop :=
  ∀ task machine, Prolonged (self task machine) (other task machine)

/-! ## Composed actions -/

theorem Composed.prolonged {settings : Settings} {self other : Evaluator}
    {own : List Data.TableId} {α : Type} {action action' : Action α}
    (composed : Composed ⟨.equal, settings, self, other⟩ own action action')
    (answers : self.ProlongedBy other) (machine : Machine) :
    Prolonged (action machine) (action' machine) := by
  induction composed generalizing machine with
  | elementary same => exact .settled (same.concurs machine).eq.symm
  | signal signal => exact .refl _
  | outOfFuel => exact .refl _
  | bind first rest firstProlonged restProlonged =>
      exact (firstProlonged machine).bind fun value after => restProlonged value after
  | change owned change => exact .refl _
  | inside rest restProlonged => exact restProlonged _ _
  | evaluate node parallel owned =>
      rw [parallel.eq]
      exact answers _ machine
  | call callee arguments parallel =>
      rw [parallel.eq]
      exact answers _ machine
  | withinCall parallel body bodyProlonged =>
      rw [parallel.eq]
      by_cases full : settings.maxDepth ≤ machine.depth
      · rw [withinCall_of_full full, withinCall_of_full full]
        exact .refl _
      · unfold Evaluation.withinCall
        rw [if_neg full, if_neg full]
        exact (bodyProlonged { machine with depth := machine.depth + 1 }).through endOfCall
          fun after => ⟨{ after with depth := after.depth - 1 }, rfl⟩
  | @contain own α frame frame' action action' parallel body bodyProlonged =>
      rw [parallel.eq]
      -- What stands around a body sees no more of it than how it ends.
      exact (bodyProlonged machine).through
        (fun ending => Evaluation.contain frame' (fun _ => ending) machine)
        fun after => ⟨after, rfl⟩
  | @catchReturn own frame frame' action action' parallel body bodyProlonged =>
      rw [parallel.eq]
      exact (bodyProlonged machine).through
        (fun ending => Evaluation.catchReturn frame' (fun _ => ending) machine)
        fun after => ⟨after, rfl⟩
  | answering label body bodyProlonged =>
      exact (bodyProlonged machine).through
        (fun ending => Evaluation.answering label (fun _ => ending) machine)
        fun after => ⟨after, rfl⟩

/-! ## Loops -/

section Loops

variable {σ : Type}

/-- A loop that may make one more turn makes the same turns before it. -/
theorem takeTurns_prolonged (turn : σ → Action (Turn σ)) (fuel : Nat) (state : σ)
    (collected : List Value) (machine : Machine) :
    Prolonged (takeTurns turn fuel state collected machine)
      (takeTurns turn (fuel + 1) state collected machine) := by
  induction fuel generalizing state collected machine with
  | zero => exact .unfinished rfl
  | succ fuel ih =>
      rw [Halts.takeTurns_succ turn fuel, Halts.takeTurns_succ turn (fuel + 1)]
      refine .after (turn state) fun taken after => ?_
      match taken with
      | .finished | .made .left _ | .made (.completed _) none | .made .skipped none =>
          exact .refl _
      | .made (.completed value) (some next) => exact ih next (value :: collected) after
      | .made .skipped (some next) => exact ih next collected after

theorem runLoop_prolonged (self : Evaluator) (fuel : Nat) (frame : Frame)
    (header : LoopHeader Node) (pass : Action Pass) (machine : Machine) :
    Prolonged (runLoop self fuel frame header pass machine)
      (runLoop self (fuel + 1) frame header pass machine) := by
  cases header with
  | counted counter first last step =>
      exact .after _ fun first _ => .after _ fun last _ => .after _ fun step between =>
        takeTurns_prolonged _ fuel first [] between
  | each name node =>
      exact .after _ fun value _ => .after _ fun items between =>
        takeTurns_prolonged _ fuel items [] between
  | whileTrue condition => exact takeTurns_prolonged _ fuel () [] machine
  | doWhile condition => exact takeTurns_prolonged _ fuel () [] machine
  | endless => exact takeTurns_prolonged _ fuel () [] machine

end Loops

/-! ## Tasks -/

/-- Only the turns of a loop are counted; the other forms ask nothing of the fuel. -/
theorem evalNode_prolonged (settings : Settings) (fuel : Nat) (self : Evaluator) (node : Node)
    (frame : Frame) (machine : Machine) :
    Prolonged (evalNode settings fuel self node frame machine)
      (evalNode settings (fuel + 1) self node frame machine) := by
  unfold evalNode
  cases node.form with
  | loop label header body block =>
      exact (runLoop_prolonged self fuel frame header _ machine).bind fun _ _ => .refl _
  | _ => exact .refl _

theorem perform_prolonged_succ (settings : Settings) (fuel : Nat) :
    (perform settings fuel).ProlongedBy (perform settings (fuel + 1)) := by
  induction fuel with
  | zero => exact fun task machine => .unfinished rfl
  | succ fuel ih =>
      intro task machine
      cases task with
      | evaluate node frame =>
          have composed : Composed
              ⟨.equal, settings, perform settings fuel, perform settings (fuel + 1)⟩
              [frame.scope.inner] (evalNode settings fuel (perform settings fuel) node frame)
              (evalNode settings fuel (perform settings (fuel + 1)) node frame) :=
            .evalNode (.refl frame) (List.mem_singleton_self _) fuel node
          exact (composed.prolonged ih machine).trans
            (evalNode_prolonged settings fuel (perform settings (fuel + 1)) node frame machine)
      | call callee arguments site =>
          have composed : Composed
              ⟨.equal, settings, perform settings fuel, perform settings (fuel + 1)⟩ []
              (callValue (perform settings fuel) settings callee arguments site)
              (callValue (perform settings (fuel + 1)) settings callee arguments site) :=
            .callValue (.refl site) callee arguments
          exact composed.prolonged ih machine

/-- More fuel changes no answer; it can only let a task go on that was out of it. -/
theorem perform_prolonged (settings : Settings) {fuel more : Nat} (enough : fuel ≤ more) :
    (perform settings fuel).ProlongedBy (perform settings more) := by
  intro task machine
  induction enough with
  | refl => exact .refl _
  | step _ ih => exact ih.trans (perform_prolonged_succ settings _ task machine)

/-- A task that ends, ends in the same way with more fuel. -/
theorem perform_of_le {settings : Settings} {fuel more : Nat} {task : Task} {machine : Machine}
    (enough : fuel ≤ more)
    (ends : ∀ after, perform settings fuel task machine ≠ .error .outOfFuel after) :
    perform settings more task machine = perform settings fuel task machine :=
  (perform_prolonged settings enough task machine).settles ends

end Evaluation

namespace Session
namespace State

open Evaluation (Interrupt perform perform_of_le)
open Source (Document)

variable {state : State} {fuel more : Nat} {document : Document}

/-- Only a program that is out of fuel comes to an outcome that says so. -/
theorem outOfFuel_of_evaluate {program : Program.Node} {after : Evaluation.Machine}
    (stops : perform state.settings fuel (.evaluate program (programFrame document)) state.machine =
      .error .outOfFuel after) : (state.evaluate fuel document program).1 = .outOfFuel := by
  simp only [evaluate, stops, Outcome.ofInterrupt]

/-- A program that ends leaves the same session behind with more fuel. -/
theorem evaluate_of_le {program : Program.Node} (enough : fuel ≤ more)
    (ends : (state.evaluate fuel document program).1 ≠ .outOfFuel) :
    state.evaluate more document program = state.evaluate fuel document program := by
  have same := perform_of_le enough fun after stops => ends (outOfFuel_of_evaluate stops)
  simp only [evaluate, same]

/-- A text that is read and run to its end is done with: more fuel makes no difference. -/
theorem run_of_le (enough : fuel ≤ more) (ends : (state.run fuel document).1 ≠ .outOfFuel) :
    state.run more document = state.run fuel document := by
  unfold run at ends ⊢
  cases read : Grammar.readProgram state.switches document.text with
  | mk reading switches =>
      rw [read] at ends
      cases reading with
      | error error => rfl
      | ok program => exact evaluate_of_le enough ends

theorem runFile_of_le {path : String} (enough : fuel ≤ more)
    (ends : (state.runFile fuel path).1 ≠ .outOfFuel) :
    state.runFile more path = state.runFile fuel path := by
  unfold runFile at ends ⊢
  cases read : state.machine.files.readText path with
  | error error => rfl
  | ok text =>
      rw [read] at ends
      exact run_of_le enough ends

end State
end Session
end Scripting
