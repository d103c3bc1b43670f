import Scripting.Proofs.SignalPaths
import Scripting.Proofs.StrandedOperands

namespace Scripting

/-!
Programs without open-ended loops.

A loop with a condition and a loop without one may go on for ever; a loop that counts or visits
items is over when it has come to the last of them.  A counted loop with a step of zero is the
exception, and whether there is one can in general only be told from a run.  The same is true of
the modules that a run imports, since programs write files.  So the run is watched: as soon as a
task comes up that is not allowed, it exits.
-/

namespace Program

open Grammar (Everywhere formParts loopParts)

/-- A loop that nothing bounds from the outset. -/
def Form.isOpenEnded : Form Node → Bool
  | .loop _ (.whileTrue _) _ _ | .loop _ (.doWhile _) _ _ | .loop _ .endless _ _ => true
  | _ => false

/-- There is no open-ended loop anywhere in a node. -/
def Node.Bounded (node : Node) : Prop :=
  Everywhere (fun node => node.form.isOpenEnded = false) node

/-! ## Parts are smaller -/

theorem sizeOf_of_mem_toList {node : Node} {option : Option Node}
    (member : node ∈ option.toList) : sizeOf node < sizeOf option := by
  rw [Option.mem_toList] at member
  subst member
  exact Nat.lt_add_of_pos_left Nat.one_pos

theorem sizeOf_of_mem_pairs {α : Type} [SizeOf α] {node : Node} {pairs : List (α × Node)}
    (member : node ∈ pairs.map Prod.snd) : sizeOf node < sizeOf pairs := by
  obtain ⟨⟨first, second⟩, listed, rfl⟩ := List.mem_map.mp member
  have inside := List.sizeOf_lt_of_mem listed
  simp only [Prod.mk.sizeOf_spec] at inside
  simp only
  omega

theorem sizeOf_of_mem_cases {node : Node} {cases : List (Node × Node)}
    (member : node ∈ cases.flatMap fun case => [case.1, case.2]) :
    sizeOf node < sizeOf cases := by
  obtain ⟨⟨condition, body⟩, listed, chosen⟩ := List.mem_flatMap.mp member
  have inside := List.sizeOf_lt_of_mem listed
  simp only [Prod.mk.sizeOf_spec] at inside
  simp only [List.mem_cons, List.not_mem_nil, or_false] at chosen
  rcases chosen with rfl | rfl <;> omega

theorem sizeOf_of_mem_targets {node : Node} {targets : List (Target Node)}
    (member : node ∈ targets.flatMap (·.object.toList)) : sizeOf node < sizeOf targets := by
  obtain ⟨⟨object, name, span⟩, listed, chosen⟩ := List.mem_flatMap.mp member
  have inside := List.sizeOf_lt_of_mem listed
  have smaller := sizeOf_of_mem_toList chosen
  simp only [Target.mk.sizeOf_spec] at inside smaller
  omega

theorem sizeOf_of_mem_loopParts {node : Node} {header : LoopHeader Node}
    (member : node ∈ loopParts header) : sizeOf node < sizeOf header := by
  cases header <;> simp only [loopParts] at member <;> grind [→ sizeOf_of_mem_toList]

theorem sizeOf_of_mem_formParts {node : Node} {form : Form Node}
    (member : node ∈ formParts form) : sizeOf node < sizeOf form := by
  cases form <;> simp only [formParts] at member <;>
    grind [→ List.sizeOf_lt_of_mem, → sizeOf_of_mem_toList, → sizeOf_of_mem_pairs,
      → sizeOf_of_mem_cases, → sizeOf_of_mem_targets, → sizeOf_of_mem_loopParts]

/-- Whether there is no open-ended loop in a node. -/
def Node.isBounded : Node → Bool
  | ⟨_, form⟩ =>
      !form.isOpenEnded && (formParts form).attach.all fun part => part.1.isBounded
termination_by node => sizeOf node
decreasing_by
  have smaller := sizeOf_of_mem_formParts part.2
  simp only [Node.mk.sizeOf_spec]
  omega

theorem Node.bounded_of_isBounded {node : Node} (holds : node.isBounded = true) :
    node.Bounded := by
  induction node using Node.isBounded.induct with
  | case1 span form ih =>
      unfold Node.isBounded at holds
      obtain ⟨here, parts⟩ := Bool.and_eq_true_iff.mp holds
      refine .node (by simpa using here) fun part member => ih ⟨part, member⟩ ?_
      exact List.all_eq_true.mp parts ⟨part, member⟩ (List.mem_attach _ _)

end Program

namespace Evaluation

open Data (Value)
open Program (Node)

/-! ## Watched runs -/

/-- The step of a counted loop, after the other bounds. -/
def evalStride (self : Evaluator) (frame : Frame) (first last : Node) (step : Option Node) :
    Action Int64 := do
  let _ ← evalBound self frame .start first
  let _ ← evalBound self frame .stop last
  evalStepBound self frame step

/-- Whether an ending gives a step of zero. -/
def isStill : Ending Int64 → Bool
  | .ok step _ => step = 0
  | .error _ _ => false

/--
Whether a task may be performed: a module that it imports has no open-ended loops, and a counted
loop does not stand still.
-/
def Task.isAllowed (settings : Settings) (self : Evaluator) (machine : Machine) : Task → Bool
  | .evaluate ⟨_, .importModule name _⟩ _ =>
      (importedProgram? settings machine.files name).all Node.isBounded
  | .evaluate ⟨_, .loop _ (.counted _ first last step) _ _⟩ frame =>
      !isStill (evalStride self frame first last step machine)
  | _ => true

/-- Evaluation that exits as soon as a task comes up that is not allowed. -/
def performWatched (settings : Settings) (code : Int32) : Nat → Evaluator
  | 0, _ => throw .outOfFuel
  | fuel + 1, task => fun machine =>
      if task.isAllowed settings (performWatched settings code fuel) machine then
        performWith settings fuel (performWatched settings code fuel) task machine
      else .error (.signal (.exited code)) machine

/--
Nothing comes up in a run that is not allowed, however far it goes: to watch it makes no
difference.
-/
def Unstopped (settings : Settings) (task : Task) (machine : Machine) : Prop :=
  ∀ code fuel, performWatched settings code fuel task machine = perform settings fuel task machine

end Evaluation
end Scripting
