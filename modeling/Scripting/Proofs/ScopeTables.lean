import Scripting.Proofs.Composition
import Scripting.Proofs.Histories

namespace Scripting
namespace Evaluation

/-!
Scope tables that evaluation leaves alone.

Names are bound and removed only in the innermost table of the frame that code
runs in.  Functions, classes, modules and steps of attribute chains run in tables
that are made for them, so that they can change no table that was there before.
-/

open Data (Bindings Scope TableId Value)
open Program (Node)
open Source (Span)

/-- Tables are at most added, and only the listed ones of those before are changed. -/
structure Spares (own : List TableId) (before after : Machine) : Prop where
  size : before.heap.tables.size ≤ after.heap.tables.size
  table : ∀ id : TableId, id.index < before.heap.tables.size → id ∉ own →
    after.heap.table id = before.heap.table id

namespace Spares

variable {own : List TableId} {before after : Machine}

theorem of_still (still : Still before after) : Spares own before after where
  size := Nat.le_of_eq (congrArg Array.size still.tables.symm)
  table id _ _ := by
    unfold Data.Heap.table
    rw [still.tables]

theorem refl (machine : Machine) : Spares own machine machine :=
  of_still (Still.refl machine)

theorem trans {between : Machine} (first : Spares own before between)
    (second : Spares own between after) : Spares own before after where
  size := Nat.le_trans first.size second.size
  table id old foreign := by
    have still : id.index < between.heap.tables.size := Nat.lt_of_lt_of_le old first.size
    exact (second.table id still foreign).trans (first.table id old foreign)

/-- More tables may be changed than are. -/
theorem mono {fewer : List TableId} (spares : Spares fewer before after)
    (included : ∀ id ∈ fewer, id ∈ own) : Spares own before after where
  size := spares.size
  table id old foreign := spares.table id old fun listed => foreign (included id listed)

/-- Changing an owned table spares the others. -/
theorem of_change {id : TableId} (owned : id ∈ own) (change : Bindings Value → Bindings Value)
    (machine : Machine) : Spares own machine (finalMachine (changeTable id change machine)) where
  size := by
    change _ ≤ (machine.heap.tables.modify id.index change).size
    exact Nat.le_of_eq Array.size_modify.symm
  table other old foreign := by
    have different : id.index ≠ other.index := by
      intro same
      have equal : other = id := by
        cases id
        cases other
        simp_all
      exact foreign (equal ▸ owned)
    change (machine.heap.tables.modify id.index change).getD other.index .empty =
      machine.heap.tables.getD other.index .empty
    simp only [Array.getD_eq_getD_getElem?, Array.getElem?_modify, if_neg different]

/-- A new scope changes nothing, and what is done inside it may change its table. -/
theorem of_inside (bindings : Bindings Value) (outer : List TableId) (machine : Machine)
    (inside : Spares (⟨machine.heap.tables.size⟩ :: own)
      { machine with heap := (machine.heap.newScope bindings outer).2 } after) :
    Spares own machine after where
  size := by
    have grown := inside.size
    change (machine.heap.tables.push bindings).size ≤ _ at grown
    rw [Array.size_push] at grown
    exact Nat.le_of_succ_le grown
  table id old foreign := by
    have older : id.index < (machine.heap.tables.push bindings).size := by
      rw [Array.size_push]
      exact Nat.lt_succ_of_lt old
    have unlisted : id ∉ ⟨machine.heap.tables.size⟩ :: own := by
      intro listed
      rcases List.mem_cons.mp listed with fresh | listed
      · rw [fresh] at old
        exact Nat.lt_irrefl _ old
      · exact foreign listed
    rw [inside.table id older unlisted]
    change (machine.heap.tables.push bindings).getD id.index .empty =
      machine.heap.tables.getD id.index .empty
    simp only [Array.getD_eq_getD_getElem?, Array.getElem?_push_lt old,
      Array.getElem?_eq_getElem old]

/-- The number of active calls does not matter. -/
theorem of_depth {depth depth' : Nat}
    (spares : Spares own { before with depth := depth } after) :
    Spares own before { after with depth := depth' } :=
  ⟨spares.size, spares.table⟩

end Spares

/-- An evaluator that changes no table but the innermost one of the frame it is given. -/
structure Evaluator.Sparing (evaluator : Evaluator) : Prop where
  evaluate : ∀ node frame machine,
    Spares [frame.scope.inner] machine (finalMachine (evaluator.eval node frame machine))
  call : ∀ callee arguments site machine,
    Spares [] machine (finalMachine (evaluator (.call callee arguments site) machine))

variable {pair : Pairing} {own : List TableId} {frame : Frame} {α : Type}

/-- What an action is composed of decides which tables it changes. -/
theorem Composed.spares {action action' : Action α} (composed : Composed pair own action action')
    (sparing : pair.self.Sparing) (machine : Machine) :
    Spares own machine (finalMachine (action machine)) := by
  induction composed generalizing machine with
  | elementary same => exact .of_still (same.still machine)
  | signal signal => exact .refl machine
  | outOfFuel => exact .refl machine
  | @bind own α β action action' next next' first rest firstSpares restSpares =>
      have before := firstSpares machine
      rw [bind_apply]
      cases ended : action machine with
      | ok value between =>
          rw [ended] at before
          exact before.trans (restSpares value between)
      | error interrupt between =>
          rw [ended] at before
          exact before
  | change owned change => exact .of_change owned change machine
  | @inside own β bindings outer next next' rest restSpares =>
      have inner := restSpares ⟨⟨machine.heap.tables.size⟩, outer⟩
        { machine with heap := (machine.heap.newScope bindings outer).2 }
      exact .of_inside bindings outer machine inner
  | evaluate node parallel owned =>
      refine (sparing.evaluate node _ machine).mono fun id listed => ?_
      rw [List.mem_singleton.mp listed]
      exact owned
  | call callee arguments parallel =>
      refine (sparing.call callee arguments _ machine).mono fun id listed => ?_
      cases listed
  | withinCall parallel body bodySpares =>
      rw [finalMachine_withinCall]
      split
      · exact .refl machine
      · exact (bodySpares _).of_depth
  | contain parallel body bodySpares =>
      rw [finalMachine_contain]
      exact bodySpares machine
  | catchReturn parallel body bodySpares =>
      rw [finalMachine_catchReturn]
      exact bodySpares machine
  | answering label body bodySpares =>
      rw [finalMachine_answering]
      exact bodySpares machine

theorem perform_sparing (settings : Settings) (fuel : Nat) :
    (perform settings fuel).Sparing := by
  induction fuel with
  | zero => exact ⟨fun _ _ machine => .refl machine, fun _ _ _ machine => .refl machine⟩
  | succ fuel ih =>
      constructor
      · intro node frame machine
        exact (perform_evaluate_composed node (.refl frame)).spares ih machine
      · intro callee arguments site machine
        exact (perform_call_composed callee arguments (.refl site)).spares ih machine

/-- What is composed of evaluation and owns no table changes none that is there. -/
theorem Composed.spares_all {settings : Settings} {fuel : Nat} {action action' : Action α}
    (composed : Composed (.ofFuel .equal settings fuel) [] action action') (machine : Machine) :
    Spares [] machine (finalMachine (action machine)) :=
  composed.spares (perform_sparing settings fuel) machine

end Evaluation

namespace Session

open Evaluation
open Data (TableId)

/-- The names that every program starts with are those that the session started with. -/
def PreludeIntact (machine : Machine) : Prop :=
  preludeTable.index < machine.heap.tables.size ∧
    machine.heap.table preludeTable = startHeap.table preludeTable

theorem preludeIntact_kept : Kept PreludeIntact where
  evaluate settings fuel program document machine intact := by
    obtain ⟨size, table⟩ := intact
    have spares := (perform_sparing settings fuel).evaluate program (programFrame document) machine
    have foreign : preludeTable ∉ [(programFrame document).scope.inner] := by
      change preludeTable ∉ [globalTable]
      decide
    exact ⟨Nat.lt_of_lt_of_le size spares.size, (spares.table _ size foreign).trans table⟩
  outside machine console files intact := intact

theorem preludeIntact_start (settings : Settings) (console : Console) (files : Files.Tree) :
    PreludeIntact (start settings console files).machine := by
  have size : startHeap.tables.size = 2 := rfl
  constructor
  · change 0 < startHeap.tables.size
    rw [size]
    exact Nat.two_pos
  · rfl

/--
Evaluation changes no scope table but the innermost one of its frame.  Whatever
runs in a scope of its own changes none of the tables that were there before: this
holds for calls, steps of attribute chains, bodies of classes, and modules.  The
prelude therefore stays as it is in a whole session.
-/
theorem tables_spared_throughout (settings : Settings) (fuel : Nat) :
    (∀ node frame machine,
      Spares [frame.scope.inner] machine
        (finalMachine (perform settings fuel (.evaluate node frame) machine))) ∧
    (∀ callee arguments site machine,
      Spares [] machine
        (finalMachine (perform settings fuel (.call callee arguments site) machine))) ∧
    (∀ frame current step machine,
      Spares [] machine
        (finalMachine (evalStep (perform settings fuel) frame current step machine))) ∧
    (∀ frame span name body machine,
      Spares [] machine
        (finalMachine (runClassBody (perform settings fuel) frame span name body machine))) ∧
    (∀ frame span name path machine,
      Spares [] machine
        (finalMachine (loadModule (perform settings fuel) settings frame span name path machine))) ∧
    (∀ console files state, Leads (start settings console files) state →
      state.machine.heap.table preludeTable = startHeap.table preludeTable) := by
  have sparing := perform_sparing settings fuel
  refine ⟨sparing.evaluate, sparing.call, ?_, ?_, ?_, ?_⟩
  · intro frame current step machine
    exact (Composed.evalStep (.refl frame) current step).spares_all machine
  · intro frame span name body machine
    exact (Composed.runClassBody (.refl frame) span name body).spares_all machine
  · intro frame span name path machine
    exact (Composed.loadModule (.refl frame) span name path).spares_all machine
  · intro console files state leads
    exact (preludeIntact_kept.machine_leads leads
      (preludeIntact_start settings console files)).2

/-- A program that binds a name of the prelude anew binds its own. -/
theorem prelude_spared_by_assignment :
    let span : Source.Span := ⟨.start, .start⟩
    let program : Program.Node :=
      ⟨span, .assign [⟨none, "print", span⟩] .set [⟨span, .number (.int 1)⟩]⟩
    let state := ((start {} {} {}).evaluate 3 ⟨"main.ql", "var print = 1"⟩ program).2
    state.machine.heap.table preludeTable = startHeap.table preludeTable ∧
      (state.machine.heap.table globalTable).get? "print" = some (.int 1) := by
  refine ⟨(tables_spared_throughout {} 3).2.2.2.2.2 {} {} _ (.evaluate .start 3 _ _), ?_⟩
  rfl

end Session
end Scripting
