import Scripting.Proofs.Composition
import Scripting.Proofs.Histories

namespace Scripting
namespace Evaluation

/-!
How many calls are active.

Every call and every module counts as one level for as long as it runs, and gives
its level back however it ends.  At the limit neither begins, so the number of
active calls is never above it.

To say what holds in the middle of a run, its tasks are followed down: a task is
asked for if the run depends on the answer to it, and a run visits whatever is
asked for in it and in the tasks that it visits.
-/

open Data (BuiltinId Fault Function FunctionId Heap TableId Value)
open Program (Node)
open Source (Document Span)

/--
A run depends on what an evaluator answers to a task in a machine: with another
answer to this one question it would end differently.
-/
def Asks {α : Type} (run : Evaluator → Ending α) (self : Evaluator) (task : Task)
    (machine : Machine) : Prop :=
  ∃ other : Evaluator,
    (∀ task' machine', ¬ (task' = task ∧ machine' = machine) →
      other task' machine' = self task' machine') ∧
    run other ≠ run self

/-- The tasks that come up while a task is performed, with the machines in which they do. -/
inductive Visits (settings : Settings) : Nat → Task → Machine → Task → Machine → Prop
  | here (fuel : Nat) (task : Task) (machine : Machine) :
      Visits settings fuel task machine task machine
  | inside {fuel : Nat} {task next last : Task} {machine between final : Machine}
      (asked : Asks (fun self => performWith settings fuel self task machine)
        (perform settings fuel) next between)
      (below : Visits settings fuel next between last final) :
      Visits settings (fuel + 1) task machine last final

/-- The values whose calls count for as long as they run. -/
def Counts : Value → Prop
  | .function _ | .method _ _ | .builtin _ => True
  | _ => False

variable {pair : Pairing} {own : List TableId} {α : Type}

/-! ## Giving levels back -/

/-- An evaluator that leaves as many calls active as it finds. -/
def Evaluator.KeepsDepth (evaluator : Evaluator) : Prop :=
  ∀ task machine, (finalMachine (evaluator task machine)).depth = machine.depth

theorem Composed.depth_kept {action action' : Action α}
    (composed : Composed pair own action action') (keeps : pair.self.KeepsDepth)
    (machine : Machine) : (finalMachine (action machine)).depth = machine.depth := by
  induction composed generalizing machine with
  | elementary same => exact (same.still machine).depth
  | signal signal => rfl
  | outOfFuel => rfl
  | @bind own α β action action' next next' first rest firstKeeps restKeeps =>
      have before := firstKeeps machine
      rw [bind_apply]
      cases ended : action machine with
      | ok value between =>
          rw [ended] at before
          exact (restKeeps value between).trans before
      | error interrupt between =>
          rw [ended] at before
          exact before
  | change owned change => rfl
  | inside rest restKeeps => exact restKeeps _ _
  | evaluate node parallel owned => exact keeps (.evaluate node _) machine
  | call callee arguments parallel => exact keeps (.call callee arguments _) machine
  | withinCall parallel body bodyKeeps =>
      rw [finalMachine_withinCall]
      split
      · rfl
      · -- The level that is given back is the one that was taken.
        change (finalMachine _).depth - 1 = machine.depth
        rw [bodyKeeps]
        exact Nat.add_sub_cancel machine.depth 1
  | contain parallel body bodyKeeps =>
      rw [finalMachine_contain]
      exact bodyKeeps machine
  | catchReturn parallel body bodyKeeps =>
      rw [finalMachine_catchReturn]
      exact bodyKeeps machine
  | answering label body bodyKeeps =>
      rw [finalMachine_answering]
      exact bodyKeeps machine

theorem perform_keepsDepth (settings : Settings) (fuel : Nat) :
    (perform settings fuel).KeepsDepth := by
  induction fuel with
  | zero =>
      intro task machine
      rfl
  | succ fuel ih =>
      intro task machine
      cases task with
      | evaluate node frame =>
          exact (perform_evaluate_composed node (.refl frame)).depth_kept ih machine
      | call callee arguments site =>
          exact (perform_call_composed callee arguments (.refl site)).depth_kept ih machine

/-! ## Staying within the limit -/

theorem Concurs.eq {ending other : Ending α} (concurs : Concurs Eq ending other) :
    ending = other := by
  cases concurs with
  | value value machine => rfl
  | error fault place machine trails => rw [trails]
  | signal signal machine => rfl
  | crashed crash machine => rfl
  | outOfFuel machine => rfl

theorem Frame.Parallel.eq {frame other : Frame} (parallel : frame.Parallel Eq other) :
    frame = other := by
  obtain ⟨trail, scope, exports, document⟩ := parallel
  cases frame
  cases other
  simp_all

theorem CallSite.Parallel.eq {site other : CallSite} (parallel : site.Parallel Eq other) :
    site = other := by
  obtain ⟨frame, span, arguments⟩ := parallel
  have same := frame.eq
  cases site
  cases other
  simp_all

/-- Two evaluators give the same answers from a number of active calls up to the limit. -/
structure Agree (settings : Settings) (floor : Nat) (evaluator other : Evaluator) : Prop where
  keeps : evaluator.KeepsDepth
  same : ∀ task machine, floor ≤ machine.depth → machine.depth ≤ settings.maxDepth →
    evaluator task machine = other task machine

/-- A run that starts within the limits is the same for evaluators that agree there. -/
theorem Composed.agree {settings : Settings} {self other : Evaluator} {floor : Nat}
    {action action' : Action α}
    (composed : Composed ⟨.equal, settings, self, other⟩ own action action')
    (agree : Agree settings floor self other) (machine : Machine) (least : floor ≤ machine.depth)
    (most : machine.depth ≤ settings.maxDepth) : action machine = action' machine := by
  induction composed generalizing machine with
  | elementary same => exact (same.concurs machine).eq
  | signal signal => rfl
  | outOfFuel => rfl
  | @bind own α β action action' next next' first rest firstAgrees restAgrees =>
      have kept := first.depth_kept agree.keeps machine
      rw [bind_apply, bind_apply, ← firstAgrees machine least most]
      cases ended : action machine with
      | ok value between =>
          rw [ended] at kept
          exact restAgrees value between (kept ▸ least) (kept ▸ most)
      | error interrupt between => rfl
  | change owned change => rfl
  | inside rest restAgrees => exact restAgrees _ _ least most
  | evaluate node parallel owned =>
      rw [parallel.eq]
      exact agree.same _ machine least most
  | call callee arguments parallel =>
      rw [parallel.eq]
      exact agree.same _ machine least most
  | withinCall parallel body bodyAgrees =>
      rw [parallel.eq]
      unfold Evaluation.withinCall
      by_cases full : settings.maxDepth ≤ machine.depth
      · rw [if_pos full, if_pos full]
      · rw [if_neg full, if_neg full]
        have deeper := bodyAgrees { machine with depth := machine.depth + 1 }
          (Nat.le_succ_of_le least) (Nat.lt_of_not_le full)
        rw [deeper]
  | contain parallel body bodyAgrees =>
      rw [parallel.eq]
      unfold Evaluation.contain
      rw [bodyAgrees machine least most]
  | catchReturn parallel body bodyAgrees =>
      rw [parallel.eq]
      unfold Evaluation.catchReturn
      rw [bodyAgrees machine least most]
  | answering label body bodyAgrees =>
      unfold Evaluation.answering
      rw [bodyAgrees machine least most]

/-! ## What is asked for -/

section Asking

variable {settings : Settings} {self : Evaluator} {task : Task} {between : Machine}

/-- What a run does with the answers alone cannot make it ask for more. -/
theorem Asks.of_eq {β : Type} {run : Evaluator → Ending α} {inner : Evaluator → Ending β}
    (finish : Ending β → Ending α) (made : ∀ evaluator, run evaluator = finish (inner evaluator))
    (asked : Asks run self task between) : Asks inner self task between := by
  obtain ⟨other, elsewhere, differs⟩ := asked
  refine ⟨other, elsewhere, fun same => differs ?_⟩
  rw [made, made, same]

/-- A run that is the same for all evaluators asks for nothing. -/
theorem not_asks_of_const {run : Evaluator → Ending α} (ending : Ending α)
    (constant : ∀ evaluator, run evaluator = ending) : ¬ Asks run self task between := by
  rintro ⟨other, _, differs⟩
  exact differs ((constant other).trans (constant self).symm)

/-- The end of a call by the end of what runs inside it: one level is given back. -/
def endOfCall : Ending α → Ending α
  | .ok value after => .ok value { after with depth := after.depth - 1 }
  | .error interrupt after => .error interrupt { after with depth := after.depth - 1 }

/-- An action that runs inside a call asks only below the limit, and one level deeper. -/
theorem Asks.of_withinCall {frame : Frame} {span : Span} {action : Evaluator → Action α}
    {machine : Machine}
    (asked : Asks (fun evaluator => withinCall settings frame span (action evaluator) machine)
      self task between) :
    machine.depth < settings.maxDepth ∧
      Asks (fun evaluator => action evaluator { machine with depth := machine.depth + 1 })
        self task between := by
  by_cases full : settings.maxDepth ≤ machine.depth
  · refine absurd asked (not_asks_of_const (raise frame span .recursionLimit machine) ?_)
    intro evaluator
    exact if_pos full
  · refine ⟨Nat.lt_of_not_le full, asked.of_eq endOfCall ?_⟩
    intro evaluator
    exact if_neg full

/-- What is asked for within the limits is asked for within the limits. -/
theorem Composed.asked_within {floor : Nat} {action : Evaluator → Action α}
    (composed : ∀ other, Composed ⟨.equal, settings, self, other⟩ own (action self) (action other))
    (keeps : self.KeepsDepth) (machine : Machine) (least : floor ≤ machine.depth)
    (most : machine.depth ≤ settings.maxDepth)
    (asked : Asks (fun evaluator => action evaluator machine) self task between) :
    floor ≤ between.depth ∧ between.depth ≤ settings.maxDepth := by
  obtain ⟨other, elsewhere, differs⟩ := asked
  refine Decidable.byContradiction fun outside => differs ?_
  have agree : Agree settings floor self other := by
    refine ⟨keeps, fun task' machine' least' most' => (elsewhere task' machine' ?_).symm⟩
    rintro ⟨_, same⟩
    rw [same] at least' most'
    exact outside ⟨least', most'⟩
  exact ((composed other).agree agree machine least most).symm

/-- What runs inside a call is one level deeper, and the call was below the limit. -/
theorem Composed.asked_withinCall {frame : Frame} {span : Span} {action : Evaluator → Action α}
    (composed : ∀ other, Composed ⟨.equal, settings, self, other⟩ own (action self) (action other))
    (keeps : self.KeepsDepth) {machine : Machine}
    (asked : Asks (fun evaluator =>
      Evaluation.withinCall settings frame span (action evaluator) machine) self task between) :
    machine.depth < between.depth ∧ between.depth ≤ settings.maxDepth := by
  obtain ⟨below, entered⟩ := asked.of_withinCall
  exact asked_within composed keeps { machine with depth := machine.depth + 1 }
    (Nat.le_refl (machine.depth + 1)) below entered

/-- The tasks that a task is performed in terms of begin within the limits. -/
theorem asked_performWith (keeps : self.KeepsDepth) {fuel : Nat} {first : Task}
    {machine : Machine} (most : machine.depth ≤ settings.maxDepth)
    (asked : Asks (fun evaluator => performWith settings fuel evaluator first machine)
      self task between) :
    machine.depth ≤ between.depth ∧ between.depth ≤ settings.maxDepth := by
  cases first with
  | evaluate node frame =>
      have composed : ∀ other, Composed ⟨.equal, settings, self, other⟩ [frame.scope.inner]
          (performWith settings fuel self (.evaluate node frame))
          (performWith settings fuel other (.evaluate node frame)) := fun other =>
        .evalNode (.refl frame) (List.mem_singleton_self _) fuel node
      exact Composed.asked_within composed keeps machine (Nat.le_refl _) most asked
  | call callee arguments site =>
      have composed : ∀ other, Composed ⟨.equal, settings, self, other⟩ []
          (performWith settings fuel self (.call callee arguments site))
          (performWith settings fuel other (.call callee arguments site)) := fun other =>
        .callValue (.refl site) callee arguments
      exact Composed.asked_within composed keeps machine (Nat.le_refl _) most asked

/-- Every task that a run visits begins within the limits. -/
theorem Visits.depth_within {fuel : Nat} {first : Task} {machine : Machine}
    (visits : Visits settings fuel first machine task between)
    (most : machine.depth ≤ settings.maxDepth) :
    machine.depth ≤ between.depth ∧ between.depth ≤ settings.maxDepth := by
  induction visits with
  | here fuel task machine => exact ⟨Nat.le_refl _, most⟩
  | inside asked below ih =>
      obtain ⟨least, within⟩ := asked_performWith (perform_keepsDepth settings _) most asked
      obtain ⟨least', within'⟩ := ih within
      exact ⟨Nat.le_trans least least', within'⟩

/-- What a function asks for, it asks for one level deeper, and its call was below the limit. -/
theorem asked_callFunction (keeps : self.KeepsDepth) {id : FunctionId}
    {arguments : List (Option Value)} {site : CallSite} {machine : Machine}
    (asked : Asks (fun evaluator => callFunction evaluator settings id arguments site machine)
      self task between) :
    machine.depth < between.depth ∧ between.depth ≤ settings.maxDepth := by
  simp only [callFunction_apply] at asked
  cases refused : arityFault? (machine.heap.function id) arguments.length with
  | some fault =>
      rw [refused] at asked
      exact absurd asked (not_asks_of_const _ fun evaluator => rfl)
  | none =>
      rw [refused] at asked
      have composed : ∀ other, Composed ⟨.equal, settings, self, other⟩ []
          (enterFunction self (machine.heap.function id) arguments site)
          (enterFunction other (machine.heap.function id) arguments site) := fun other =>
        .enterFunction (.refl site) (machine.heap.function id) arguments
      exact Composed.asked_withinCall composed keeps asked

/-- What a call that counts asks for, it asks for one level deeper. -/
theorem asked_callValue (keeps : self.KeepsDepth) {callee : Value} (counts : Counts callee)
    {arguments : List (Option Value)} {site : CallSite} {machine : Machine}
    (asked : Asks (fun evaluator => callValue evaluator settings callee arguments site machine)
      self task between) :
    machine.depth < between.depth ∧ between.depth ≤ settings.maxDepth := by
  cases callee with
  | function id => exact asked_callFunction keeps asked
  | method id receiver => exact asked_callFunction keeps asked
  | builtin id => exact absurd asked (not_asks_of_const _ fun evaluator => rfl)
  | _ => exact counts.elim

/-- What a module asks for, it asks for one level deeper, and its import was below the limit. -/
theorem asked_runModule (keeps : self.KeepsDepth) {frame : Frame} {span : Span} {name : String}
    {document : Document} {program : Node} {machine : Machine}
    (asked : Asks (fun evaluator =>
      runModule evaluator settings frame span name document program machine) self task between) :
    machine.depth < between.depth ∧ between.depth ≤ settings.maxDepth := by
  have composed : ∀ other, Composed ⟨.equal, settings, self, other⟩ []
      (moduleBody self frame span name document program)
      (moduleBody other frame span name document program) := fun other =>
    .moduleBody (.refl frame) span name document program
  exact Composed.asked_withinCall composed keeps asked

/-- A run that comes to an end asks for whatever it cannot go on without. -/
theorem asks_of_needed {run : Evaluator → Ending α}
    (ends : ∀ after, run self ≠ .error .outOfFuel after)
    (needed : ∀ evaluator : Evaluator, evaluator task between = .error .outOfFuel between →
      ∃ after, run evaluator = .error .outOfFuel after) : Asks run self task between := by
  classical
  let other : Evaluator := fun task' machine' =>
    if task' = task ∧ machine' = between then .error .outOfFuel between else self task' machine'
  refine ⟨other, fun task' machine' elsewhere => if_neg elsewhere, fun same => ?_⟩
  obtain ⟨after, stops⟩ := needed other (if_pos ⟨rfl, rfl⟩)
  exact ends after (same.symm.trans stops)

end Asking

/-! ## At the limit -/

/-- What is wrong with the arguments of a call, which is found out before it begins. -/
def argumentFault? (heap : Heap) (arguments : List (Option Value)) : Value → Option Fault
  | .function id => arityFault? (heap.function id) arguments.length
  | .method id _ => arityFault? (heap.function id) (arguments.length + 1)
  | .builtin id =>
      match (heap.builtin id).bind arguments with
      | .error fault => some fault
      | .ok _ => none
  | _ => none

section Limit

variable {settings : Settings} {machine : Machine}

theorem withinCall_of_full (full : settings.maxDepth ≤ machine.depth) (frame : Frame)
    (span : Span) (action : Action α) :
    withinCall settings frame span action machine = raise frame span .recursionLimit machine :=
  if_pos full

theorem withinCall_of_error {frame : Frame} {span : Span} {action : Action α}
    {interrupt : Interrupt} {after : Machine} (below : machine.depth < settings.maxDepth)
    (ended : action { machine with depth := machine.depth + 1 } = .error interrupt after) :
    withinCall settings frame span action machine =
      .error interrupt { after with depth := after.depth - 1 } := by
  unfold withinCall
  rw [if_neg (Nat.not_le_of_lt below), ended]

theorem callFunction_of_full (full : settings.maxDepth ≤ machine.depth) (self : Evaluator)
    (id : FunctionId) (arguments : List (Option Value)) (site : CallSite) :
    callFunction self settings id arguments site machine =
      raise site.frame site.span
        ((arityFault? (machine.heap.function id) arguments.length).getD .recursionLimit)
        machine := by
  rw [callFunction_apply]
  cases arityFault? (machine.heap.function id) arguments.length with
  | some fault => rfl
  | none => exact withinCall_of_full full _ _ _

theorem callBuiltin_of_full (full : settings.maxDepth ≤ machine.depth) (id : BuiltinId)
    (arguments : List (Option Value)) (site : CallSite) :
    callBuiltin settings id arguments site machine =
      raise site.frame site.span
        ((argumentFault? machine.heap arguments (.builtin id)).getD .recursionLimit)
        machine := by
  rw [callBuiltin_apply]
  simp only [argumentFault?]
  cases (machine.heap.builtin id).bind arguments with
  | error fault => rfl
  | ok bound => exact withinCall_of_full full _ _ _

/-- At the limit a call that counts is refused, and nothing of it runs. -/
theorem callValue_of_full (full : settings.maxDepth ≤ machine.depth) (self : Evaluator)
    {callee : Value} (counts : Counts callee) (arguments : List (Option Value))
    (site : CallSite) :
    callValue self settings callee arguments site machine =
      raise site.frame site.span
        ((argumentFault? machine.heap arguments callee).getD .recursionLimit) machine := by
  cases callee with
  | function id => exact callFunction_of_full full self id arguments site
  | method id receiver =>
      exact callFunction_of_full full self id (some (.object receiver) :: arguments) site
  | builtin id => exact callBuiltin_of_full full id arguments site
  | _ => exact counts.elim

end Limit

end Evaluation

namespace Session

open Evaluation

theorem depth_zero_kept : Kept fun machine => machine.depth = 0 where
  evaluate settings fuel _ _ machine zero :=
    (perform_keepsDepth settings fuel _ machine).trans zero
  outside _ _ _ zero := zero

/--
Every run leaves as many calls active as it finds, and all that comes up in it
begins within the limit.  What a call or a module asks for is asked for one level
deeper, from below the limit; at the limit neither of them begins.  Between the
runs of a session no call is active.
-/
theorem calls_counted_throughout (settings : Settings) (fuel : Nat) :
    (∀ task machine,
      (finalMachine (perform settings fuel task machine)).depth = machine.depth) ∧
    (∀ task machine task' machine', machine.depth ≤ settings.maxDepth →
      Visits settings fuel task machine task' machine' →
      machine.depth ≤ machine'.depth ∧ machine'.depth ≤ settings.maxDepth) ∧
    (∀ callee arguments site machine task between, Counts callee →
      Asks (fun self => callValue self settings callee arguments site machine)
        (perform settings fuel) task between →
      machine.depth < between.depth ∧ between.depth ≤ settings.maxDepth) ∧
    (∀ frame span name document program machine task between,
      Asks (fun self => runModule self settings frame span name document program machine)
        (perform settings fuel) task between →
      machine.depth < between.depth ∧ between.depth ≤ settings.maxDepth) ∧
    (∀ callee arguments site machine, Counts callee → settings.maxDepth ≤ machine.depth →
      callValue (perform settings fuel) settings callee arguments site machine =
        raise site.frame site.span
          ((argumentFault? machine.heap arguments callee).getD .recursionLimit) machine) ∧
    (∀ frame span name document program machine, settings.maxDepth ≤ machine.depth →
      runModule (perform settings fuel) settings frame span name document program machine =
        raise frame span .recursionLimit machine) ∧
    (∀ console files state, Leads (start settings console files) state →
      state.machine.depth = 0) := by
  have keeps := perform_keepsDepth settings fuel
  refine ⟨keeps, ?_, ?_, ?_, ?_, ?_, ?_⟩
  · intro task machine task' machine' most visits
    exact visits.depth_within most
  · intro callee arguments site machine task between counts asked
    exact asked_callValue keeps counts asked
  · intro frame span name document program machine task between asked
    exact asked_runModule keeps asked
  · intro callee arguments site machine counts full
    exact callValue_of_full full (perform settings fuel) counts arguments site
  · intro frame span name document program machine full
    exact withinCall_of_full full frame span _
  · intro console files state leads
    exact depth_zero_kept.machine_leads leads rfl

/--
With one call allowed, the body of a function runs at the limit, and the call of
itself in it is refused; afterwards no call is active.
-/
theorem one_call_counted :
    let settings : Settings := { maxDepth := 1 }
    let span : Source.Span := ⟨.start, .start⟩
    let document : Source.Document := ⟨"main.ql", "def f() -> f()"⟩
    let call : Program.Node := ⟨span, .call ⟨span, .name "f"⟩ []⟩
    let define : Program.Node := ⟨span, .function (some "f") [] [] call true⟩
    let state := ((start settings {} {}).evaluate 6 document define).2
    let frame := programFrame document
    let site : CallSite := ⟨frame, span, []⟩
    let inside : Frame := ⟨frame.enter "f" span, ⟨⟨2⟩, [⟨1⟩, ⟨0⟩]⟩, none, document⟩
    let between : Machine :=
      { state.machine with heap := (state.machine.heap.newTable .empty).2, depth := 1 }
    state.machine.depth = 0 ∧
      Visits settings 6 (.call (.function ⟨0⟩) [] site) state.machine (.evaluate call inside)
        between ∧
      state.machine.depth < between.depth ∧ between.depth ≤ settings.maxDepth ∧
      callValue (perform settings 5) settings (.function ⟨0⟩) [] ⟨inside, span, []⟩ between =
        raise inside span .recursionLimit between := by
  intro settings span document call define state frame site inside between
  have counted := calls_counted_throughout settings 5
  have idle : state.machine.depth = 0 :=
    counted.2.2.2.2.2.2 {} {} state (.evaluate .start 6 document define)
  have asked : Asks
      (fun self => callValue self settings (.function ⟨0⟩) [] site state.machine)
      (perform settings 5) (.evaluate call inside) between := by
    refine asks_of_needed (fun after same => ?_) (fun evaluator stops => ?_)
    · cases same
    · -- Past the refusals and the new scope, the call is the body.
      let function := state.machine.heap.function ⟨0⟩
      have body : evalBody evaluator inside function between = .error .outOfFuel between :=
        bind_of_error stops _
      have caught : catchReturn inside (evalBody evaluator inside function) between =
          .error .outOfFuel between := by
        unfold catchReturn
        rw [body]
      have entered : enterFunction evaluator function [] site { state.machine with depth := 1 } =
          .error .outOfFuel between := caught
      refine ⟨{ between with depth := 0 }, ?_⟩
      change withinCall settings frame span (enterFunction evaluator function [] site)
        state.machine = _
      exact withinCall_of_error Nat.zero_lt_one entered
  have deeper := counted.2.2.1 (.function ⟨0⟩) _ _ _ _ _ trivial asked
  have visits : Visits settings 6 (.call (.function ⟨0⟩) [] site) state.machine
      (.evaluate call inside) between := .inside asked (.here 5 _ _)
  refine ⟨idle, visits, deeper.1, deeper.2, ?_⟩
  exact counted.2.2.2.2.1 (.function ⟨0⟩) [] ⟨inside, span, []⟩ between trivial (Nat.le_refl 1)

end Session
end Scripting
