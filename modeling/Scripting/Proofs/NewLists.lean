import Scripting.Proofs.HeededSignals
import Scripting.Proofs.ValueSources

namespace Scripting
namespace Evaluation

/-!
New lists.

Operators, assignments that combine values, conversions and loops on one line do not touch the
lists that they are applied to: if they give a list, it is one that was not there before.
-/

open Data (Heap Product Value Yields)
open Program (BinaryOp LoopHeader Node)
open Source (Span)

/-- A list that is given was not there before, and is there now. -/
def GivesNewLists (action : Action Value) : Prop :=
  ∀ machine id after, action machine = .ok (.list id) after →
    machine.heap.lists.size ≤ id.index ∧ id.index < after.heap.lists.size

/-- An action that only looks at the machine. -/
def Reads {α : Type} (action : Action α) : Prop :=
  ∀ machine, finalMachine (action machine) = machine

section NewLists

variable {α β : Type} {frame : Frame} {span : Span}

namespace Reads

theorem readHeap (look : Heap → α) : Reads (readHeap look) :=
  fun _ => rfl

theorem raise {fault : Data.Fault} : Reads (raise frame span fault : Action α) :=
  fun _ => rfl

theorem pure (value : α) : Reads (Pure.pure value : Action α) :=
  fun _ => rfl

theorem check (operation : Heap → Except Data.Fault α) : Reads (check frame span operation) := by
  intro machine
  unfold Evaluation.check
  cases operation machine.heap <;> rfl

theorem bind {action : Action α} {next : α → Action β} (first : Reads action)
    (rest : ∀ value, Reads (next value)) : Reads (action >>= next) := by
  intro machine
  have same := first machine
  rw [bind_apply]
  generalize action machine = ending at same
  cases ending with
  | ok value after => exact (rest value after).trans same
  | error interrupt after => exact same

theorem lookUp (name : String) : Reads (lookUp frame span name) := by
  refine (readHeap _).bind fun found => ?_
  cases found with
  | some value => exact pure value
  | none => exact (readHeap _).bind fun _ => raise

theorem storedAttribute (id : Data.ObjectId) (name : String) :
    Reads (storedAttribute frame span id name) := by
  refine (readHeap _).bind fun found => ?_
  cases found with
  | some value => exact pure value
  | none => exact (readHeap _).bind fun _ => raise

end Reads

namespace GivesNewLists

theorem after {action : Action α} {next : α → Action Value} (reads : Reads action)
    (rest : ∀ value, GivesNewLists (next value)) : GivesNewLists (action >>= next) := by
  intro machine id final ended
  have same := reads machine
  rw [bind_apply] at ended
  generalize action machine = ending at same ended
  cases ending with
  | ok value between =>
      change between = machine at same
      rw [← same]
      exact rest value between id final ended
  | error interrupt between => cases ended

/-- What is done with the value afterwards leaves the lists alone. -/
theorem before {action : Action Value} {change : Value → Action Unit} (gives : GivesNewLists action)
    (apart : ∀ value machine, (finalMachine (change value machine)).heap.lists = machine.heap.lists) :
    GivesNewLists (do
      let value ← action
      change value
      return value) := by
  intro machine id final ended
  rw [bind_apply] at ended
  cases made : action machine with
  | ok value between =>
      rw [made] at ended
      have lists := apart value between
      simp only [bind_apply] at ended
      generalize change value between = ending at lists ended
      cases ending with
      | ok _ last =>
          cases ended
          have new := gives machine id between made
          exact ⟨new.1, lists ▸ new.2⟩
      | error interrupt last => cases ended
  | error interrupt between =>
      rw [made] at ended
      cases ended

theorem newList (items : List Value) : GivesNewLists (newList items) := by
  intro machine id after ended
  cases ended
  exact ⟨Nat.le_refl _, by simp⟩

/-- An operator gives a plain value or a new list. -/
theorem applyBinary (op : BinaryOp) (left right : Value) :
    GivesNewLists (applyBinary frame span op left right) := by
  intro machine id after ended
  have made : Yields (Product.All machine.heap anything) (machine.heap.binary op left right) :=
    .binary_all (fun _ _ _ => trivial) op trivial
  simp only [Evaluation.applyBinary, bind_apply, Evaluation.check] at ended
  cases found : machine.heap.binary op left right with
  | error fault =>
      rw [found] at ended
      cases ended
  | ok product =>
      rw [found] at ended made
      cases product with
      | value value =>
          cases ended
          cases made
      | list items => exact newList items machine id after ended
      | overgrown overgrowth => cases ended

theorem combine {current : Action Value} (reads : Reads current) (op : BinaryOp) (value : Value) :
    GivesNewLists (combine frame span (.compound op) current value) :=
  after reads fun old => applyBinary op old value

theorem assignName (name : String) (op : BinaryOp) (value : Value) :
    GivesNewLists (assignName frame span name (.compound op) value) :=
  (combine (.lookUp name) op value).before fun _ _ => rfl

theorem assignAttribute (owner : Value) (name : String) (op : BinaryOp) (value : Value) :
    GivesNewLists (assignAttribute frame span owner name (.compound op) value) := by
  unfold Evaluation.assignAttribute
  split
  · exact (combine (.storedAttribute _ name) op value).before fun _ _ => rfl
  · exact after (.readHeap _) fun _ _ _ _ ended => nomatch ended

/-- The level of a call is not on the heap. -/
theorem withinCall {settings : Settings} {action : Action Value} (gives : GivesNewLists action) :
    GivesNewLists (withinCall settings frame span action) := by
  intro machine id after ended
  unfold Evaluation.withinCall at ended
  split at ended
  · cases ended
  · split at ended
    · rename_i value inside made
      cases ended
      exact gives { machine with depth := machine.depth + 1 } id inside made
    · cases ended

theorem crash (crash : Crash) : GivesNewLists (throw (.crashed crash)) :=
  fun _ _ _ ended => nomatch ended

theorem runOperation (call : BuiltinCall) (arguments : Data.Arguments) :
    GivesNewLists (runOperation call .toList arguments) := by
  unfold Evaluation.runOperation
  split
  all_goals first | exact after (.check _) newList | contradiction | exact crash _

/-- Calls of the function that makes lists. -/
theorem callBuiltin (settings : Settings) (id : Data.BuiltinId)
    (arguments : List (Option Value)) (site : CallSite) (machine : Machine)
    (makes : (machine.heap.builtin id).operation = .toList) {made : Data.ListId}
    {final : Machine}
    (ended : callBuiltin settings id arguments site machine = .ok (.list made) final) :
    machine.heap.lists.size ≤ made.index ∧ made.index < final.heap.lists.size := by
  have gives : ∀ builtin : Data.Builtin, builtin.operation = .toList →
      GivesNewLists (do
        let bound ← Evaluation.check site.frame site.span fun _ => builtin.bind arguments
        Evaluation.withinCall settings site.frame site.span (Evaluation.runOperation
          ⟨builtin.name, builtinFrame builtin site, site⟩ builtin.operation bound)) := by
    intro builtin same
    rw [same]
    exact after (.check _) fun bound => withinCall (runOperation _ bound)
  exact gives _ makes machine made final ended

end GivesNewLists

/-- A loop on one line gives a list that is made when its last pass is over. -/
theorem evalLoop_gives_new {self : Evaluator} {fuel : Nat} {label : Option String}
    {header : LoopHeader Node} {body : Node} {machine final : Machine} {value : Value}
    (ended : evalLoop self fuel frame label header body false machine = .ok value final) :
    ∃ values between id,
      runLoop self fuel frame header (runPass self frame label body) machine = .ok values between ∧
        value = .list id ∧ between.heap.lists.size ≤ id.index ∧
          id.index < final.heap.lists.size := by
  unfold evalLoop at ended
  rw [bind_apply] at ended
  cases ran : runLoop self fuel frame header (runPass self frame label body) machine with
  | ok values between =>
      rw [ran] at ended
      cases ended
      exact ⟨values, between, _, rfl, rfl, Nat.le_refl _, by simp⟩
  | error interrupt between =>
      rw [ran] at ended
      cases ended

end NewLists

end Evaluation
end Scripting
