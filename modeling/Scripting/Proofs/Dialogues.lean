import Scripting.Proofs.LastingActions

namespace Scripting
namespace Evaluation

/-!
Runs as dialogues.

A run puts questions to an evaluator, one after the other, and what it does next depends on the
answer.  Here every question is tame, all lists are kept between an answer and the next question,
and the same can be said of what follows whichever answer is given, provided that the answer
keeps all lists too.  So a run keeps all lists if the answers do, and nothing but tame questions
comes up in it.

An exit is passed on by every run.  Therefore a run that comes to a question depends on the
answer, and the questions are just the tasks that the run asks for.
-/

open Data (Fault Function Heap TameArguments Value changerNames)
open Program (Node)
open Source (Span)

/-- A task that does not get hold of a function that changes lists. -/
def Task.Tame : Task → Prop
  | .evaluate node _ => node.Avoids changerNames
  | .call callee arguments _ => callee.Tame ∧ TameArguments arguments

/-- From some heap on a run goes through tame questions to an ending, and all lists are kept. -/
inductive Dialogue {α : Type} (good : α → Prop) : Heap → (Evaluator → Ending α) → Prop
  | ends {before : Heap} {ending : Ending α} (lasting : Lasting before good ending) :
      Dialogue good before fun _ => ending
  | asks {before : Heap} {task : Task} {machine : Machine}
      (next : Ending Value → Evaluator → Ending α) (question : task.Tame)
      (tame : machine.heap.Tame) (kept : before.ListsKept machine.heap)
      (exits : ∀ code after, ∃ final, ∀ self : Evaluator,
        next (.error (.signal (.exited code)) after) self = .error (.signal (.exited code)) final)
      (later : ∀ answer, Lasting machine.heap Value.Tame answer →
        Dialogue good (finalMachine answer).heap (next answer)) :
      Dialogue good before fun self => next (self task machine) self

/-- Go on after an ending with its value, if it has one. -/
def goOn {α β : Type} (next : α → Action β) : Ending α → Ending β
  | .ok value after => next value after
  | .error interrupt after => .error interrupt after

open Classical in
/-- An evaluator that exits where it comes to a task in a machine. -/
noncomputable def Evaluator.leavingAt (self : Evaluator) (task : Task) (machine : Machine)
    (code : Int32) : Evaluator := fun task' machine' =>
  if task' = task ∧ machine' = machine then .error (.signal (.exited code)) machine
  else self task' machine'

variable {α β : Type}

/-! ## Questions -/

section Questions

variable {next : Ending Value → Evaluator → Ending α} {task task' : Task}
  {machine machine' : Machine} {self : Evaluator}
  (exits : ∀ code after, ∃ final, ∀ self : Evaluator,
    next (.error (.signal (.exited code)) after) self = .error (.signal (.exited code)) final)

include exits

/-- Whoever passes on an exit depends on whether there is one. -/
theorem asks_question :
    Asks (fun self => next (self task machine) self) self task machine := by
  have elsewhere : ∀ code task' machine', ¬ (task' = task ∧ machine' = machine) →
      self.leavingAt task machine code task' machine' = self task' machine' :=
    fun _ _ _ apart => if_neg apart
  have left : ∀ code, ∃ final, next (self.leavingAt task machine code task machine)
      (self.leavingAt task machine code) = .error (.signal (.exited code)) final := by
    intro code
    obtain ⟨final, passes⟩ := exits code machine
    have here : self.leavingAt task machine code task machine =
        .error (.signal (.exited code)) machine := if_pos ⟨rfl, rfl⟩
    exact ⟨final, by rw [here, passes]⟩
  obtain ⟨final, zero⟩ := left 0
  obtain ⟨final', one⟩ := left 1
  -- At most one of the two exits is how the run ends anyway.
  by_cases same : next (self task machine) self = .error (.signal (.exited 0)) final
  · refine ⟨self.leavingAt task machine 1, elsewhere 1, fun differs => ?_⟩
    have both := one.symm.trans (differs.trans same)
    cases both
  · refine ⟨self.leavingAt task machine 0, elsewhere 0, fun differs => ?_⟩
    exact same (differs.symm.trans zero)

/-- A run asks for its first question, and then for what it asks for with the answer. -/
theorem asks_iff :
    Asks (fun self => next (self task machine) self) self task' machine' ↔
      (task' = task ∧ machine' = machine) ∨
        Asks (next (self task machine)) self task' machine' := by
  by_cases first : task' = task ∧ machine' = machine
  · obtain ⟨rfl, rfl⟩ := first
    exact ⟨fun _ => .inl ⟨rfl, rfl⟩, fun _ => asks_question exits⟩
  · have answered : ∀ other : Evaluator,
        (∀ task'' machine'', ¬ (task'' = task' ∧ machine'' = machine') →
          other task'' machine'' = self task'' machine'') →
        other task machine = self task machine := by
      intro other elsewhere
      refine elsewhere task machine ?_
      rintro ⟨rfl, rfl⟩
      exact first ⟨rfl, rfl⟩
    constructor
    · rintro ⟨other, elsewhere, differs⟩
      simp only [answered other elsewhere] at differs
      exact .inr ⟨other, elsewhere, differs⟩
    · rintro (same | ⟨other, elsewhere, differs⟩)
      · exact absurd same first
      · refine ⟨other, elsewhere, ?_⟩
        simp only [answered other elsewhere]
        exact differs

end Questions

namespace Dialogue

variable {good : α → Prop} {before earlier : Heap} {run : Evaluator → Ending α}

/-! ## Composition -/

theorem since (dialogue : Dialogue good before run) (kept : earlier.ListsKept before) :
    Dialogue good earlier run := by
  cases dialogue with
  | ends lasting => exact .ends (lasting.since kept)
  | asks next question tame later exits goesOn =>
      exact .asks next question tame (kept.trans later) exits goesOn

/-- A single question. -/
theorem ask {task : Task} {machine : Machine} (question : task.Tame)
    (tame : machine.heap.Tame) :
    Dialogue Value.Tame machine.heap fun self => self task machine :=
  .asks (fun answer _ => answer) question tame (.refl _) (fun _ after => ⟨after, fun _ => rfl⟩)
    fun _ lasting => .ends lasting.settled

/-- Something is made of the ending. -/
theorem finish {good' : β → Prop} (dialogue : Dialogue good before run)
    (wrap : Ending α → Ending β)
    (lasts : ∀ {before : Heap} {ending : Ending α}, Lasting before good ending →
      Lasting before good' (wrap ending))
    (exits : ∀ code after, ∃ final,
      wrap (.error (.signal (.exited code)) after) = .error (.signal (.exited code)) final) :
    Dialogue good' before fun self => wrap (run self) := by
  induction dialogue with
  | ends lasting => exact .ends (lasts lasting)
  | asks next question tame kept leaves later ih =>
      refine .asks (fun answer self => wrap (next answer self)) question tame kept ?_ ih
      intro code after
      obtain ⟨between, passed⟩ := leaves code after
      obtain ⟨final, wrapped⟩ := exits code between
      exact ⟨final, fun self => by rw [passed, wrapped]⟩

/-- A sequence goes on with the value that the first action gives. -/
theorem bind {good' : β → Prop} {action : Evaluator → Action α}
    {next : Evaluator → α → Action β} {machine : Machine}
    (first : Dialogue good before fun self => action self machine)
    (rest : ∀ value, good value → ∀ machine : Machine, machine.heap.Tame →
      Dialogue good' machine.heap fun self => next self value machine) :
    Dialogue good' before fun self => (action self >>= next self) machine := by
  have continued : ∀ {before : Heap} {run : Evaluator → Ending α}, Dialogue good before run →
      Dialogue good' before fun self => goOn (next self) (run self) := by
    intro before run dialogue
    induction dialogue with
    | @ends before ending lasting =>
        cases ending with
        | ok value after => exact (rest value lasting.gives after lasting.tame).since lasting.kept
        | error interrupt after => exact .ends ⟨lasting.tame, lasting.kept, lasting.gives⟩
    | asks ask question tame kept leaves later ih =>
        refine .asks (fun answer self => goOn (next self) (ask answer self)) question tame kept ?_ ih
        intro code after
        obtain ⟨final, passed⟩ := leaves code after
        exact ⟨final, fun self => by rw [passed]; rfl⟩
  have split : ∀ self, (action self >>= next self) machine =
      goOn (next self) (action self machine) := by
    intro self
    rw [bind_apply]
    rfl
  simp only [split]
  exact continued first

/-! ## What follows for the run -/

/-- If the answers keep all lists, the run does. -/
theorem lasting (dialogue : Dialogue good before run) {self : Evaluator}
    (answers : ∀ {task : Task} {machine : Machine}, Asks run self task machine → task.Tame →
      machine.heap.Tame → Lasting machine.heap Value.Tame (self task machine)) :
    Lasting before good (run self) := by
  induction dialogue with
  | ends lasting => exact lasting
  | asks next question tame kept exits later ih =>
      have answer := answers (asks_question exits) question tame
      have rest := ih _ answer fun asked => answers ((asks_iff exits).mpr (.inr asked))
      exact rest.since (kept.trans answer.kept)

/-- What comes up in the run is tame, and keeps the lists from before and for what follows. -/
theorem asked (dialogue : Dialogue good before run) {self : Evaluator}
    (answers : ∀ {task : Task} {machine : Machine}, Asks run self task machine → task.Tame →
      machine.heap.Tame → Lasting machine.heap Value.Tame (self task machine))
    {task : Task} {machine : Machine} (asked : Asks run self task machine) :
    (task.Tame ∧ machine.heap.Tame) ∧ before.ListsKept machine.heap ∧
      (finalMachine (self task machine)).heap.ListsKept (finalMachine (run self)).heap := by
  induction dialogue with
  | @ends before ending lasting =>
      exact absurd asked (not_asks_of_const ending fun _ => rfl)
  | asks next question tame kept exits later ih =>
      have answer := answers (asks_question exits) question tame
      have rest : ∀ {task : Task} {machine : Machine}, Asks (next _) self task machine →
          task.Tame → machine.heap.Tame → Lasting machine.heap Value.Tame (self task machine) :=
        fun asked => answers ((asks_iff exits).mpr (.inr asked))
      rcases (asks_iff exits).mp asked with ⟨rfl, rfl⟩ | asked
      · exact ⟨⟨question, tame⟩, kept, ((later _ answer).lasting rest).kept⟩
      · obtain ⟨tame, since, afterwards⟩ := ih _ answer rest asked
        exact ⟨tame, kept.trans (answer.kept.trans since), afterwards⟩

/--
Some questions are not answered but exited from.  A run that does not come to one of them ends in
the same way, and any other run exits.
-/
theorem guarded (dialogue : Dialogue good before run) {self other : Evaluator}
    (known : Task → Machine → Prop) {code : Int32}
    (answers : ∀ {task : Task} {machine : Machine}, task.Tame → machine.heap.Tame →
      known task machine → Lasting machine.heap Value.Tame (self task machine) ∧
        other task machine = self task machine)
    (stops : ∀ {task : Task} {machine : Machine}, task.Tame → machine.heap.Tame →
      ¬ known task machine →
        ∃ after, other task machine = .error (.signal (.exited code)) after) :
    ((∀ task machine, Asks run self task machine → known task machine) ∧ run other = run self) ∨
      ((∃ task machine, Asks run self task machine ∧ ¬ known task machine) ∧
        ∃ after, run other = .error (.signal (.exited code)) after) := by
  induction dialogue with
  | @ends before ending lasting =>
      refine .inl ⟨fun task machine asked => ?_, rfl⟩
      exact absurd asked (not_asks_of_const ending fun _ => rfl)
  | @asks before task machine next question tame kept exits later ih =>
      by_cases here : known task machine
      · obtain ⟨answer, same⟩ := answers question tame here
        simp only [same]
        rcases ih _ answer with ⟨all, ended⟩ | ⟨⟨task', machine', asked, unknown⟩, left⟩
        · refine .inl ⟨fun task' machine' asked => ?_, ended⟩
          rcases (asks_iff exits).mp asked with ⟨rfl, rfl⟩ | asked
          · exact here
          · exact all task' machine' asked
        · exact .inr ⟨⟨task', machine', (asks_iff exits).mpr (.inr asked), unknown⟩, left⟩
      · obtain ⟨after, left⟩ := stops question tame here
        obtain ⟨final, passed⟩ := exits code after
        refine .inr ⟨⟨task, machine, asks_question exits, here⟩, final, ?_⟩
        simp only [left, passed]

end Dialogue

/-! ## Actions -/

/-- From every tame heap an action in terms of an evaluator is a dialogue. -/
def Gentle {α : Type} (action : Evaluator → Action α) (good : α → Prop) : Prop :=
  ∀ machine, machine.heap.Tame → Dialogue good machine.heap fun self => action self machine

namespace Gentle

variable {good : α → Prop} {frame : Frame} {span : Span}

/-- An action that does not ask for anything. -/
theorem steady {action : Action α} (lasts : Lasts action good) : Gentle (fun _ => action) good :=
  fun machine tame => .ends (lasts machine tame)

theorem pure {value : α} (holds : good value) : Gentle (fun _ => Pure.pure value) good :=
  steady (.pure holds)

theorem look {look : Heap → α} : Gentle (fun _ => readHeap look) anything :=
  steady .look

theorem bind {action : Evaluator → Action α} {next : Evaluator → α → Action β} {good' : β → Prop}
    (first : Gentle action good)
    (rest : ∀ value, good value → Gentle (fun self => next self value) good') :
    Gentle (fun self => action self >>= next self) good' :=
  fun machine tame => (first machine tame).bind rest

/-- A sequence in which it does not matter what the first action gives. -/
theorem andThen {action : Evaluator → Action α} {next : Evaluator → α → Action β}
    {good : β → Prop} (first : Gentle action anything)
    (rest : ∀ value, Gentle (fun self => next self value) good) :
    Gentle (fun self => action self >>= next self) good :=
  first.bind fun value _ => rest value

theorem ite {condition : Prop} [Decidable condition] {yes no : Evaluator → Action α}
    (positive : Gentle yes good) (negative : Gentle no good) :
    Gentle (fun self => if condition then yes self else no self) good := by
  by_cases decided : condition
  · simp only [if_pos decided]
    exact positive
  · simp only [if_neg decided]
    exact negative

theorem evaluate {node : Node} (avoids : node.Avoids changerNames) (frame : Frame) :
    Gentle (fun self => self.eval node frame) Value.Tame :=
  fun _ tame => .ask avoids tame

theorem call {callee : Value} (tame : callee.Tame) {arguments : List (Option Value)}
    (given : TameArguments arguments) (site : CallSite) :
    Gentle (fun self => self (.call callee arguments site)) Value.Tame :=
  fun _ clean => .ask ⟨tame, given⟩ clean

theorem runPass {body : Node} (avoids : body.Avoids changerNames) (label : Option String) :
    Gentle (fun self => runPass self frame label body) Pass.Tame :=
  fun machine tame => (evaluate avoids frame machine tame).finish
    (fun ending => answering label (fun _ => ending) machine) (fun lasting => lasting.answering label)
    fun _ after => ⟨after, rfl⟩

theorem catchReturn {action : Evaluator → Action Value} (gentle : Gentle action Value.Tame) :
    Gentle (fun self => catchReturn frame (action self)) Value.Tame :=
  fun machine tame => (gentle machine tame).finish
    (fun ending => Evaluation.catchReturn frame (fun _ => ending) machine)
    (fun lasting => lasting.catchReturn frame) fun _ after => ⟨after, rfl⟩

theorem contain {action : Evaluator → Action Value} (gentle : Gentle action Value.Tame) :
    Gentle (fun self => contain frame (action self)) Value.Tame :=
  fun machine tame => (gentle machine tame).finish
    (fun ending => Evaluation.contain frame (fun _ => ending) machine)
    (fun lasting => lasting.contain frame) fun _ after => ⟨after, rfl⟩

/-- At the limit nothing is asked for. -/
theorem withinCall {settings : Settings} {action : Evaluator → Action α}
    (gentle : Gentle action good) :
    Gentle (fun self => withinCall settings frame span (action self)) good := by
  intro machine tame
  by_cases full : settings.maxDepth ≤ machine.depth
  · simp only [withinCall_of_full full]
    exact .ends (Lasts.raise machine tame)
  · simp only [Evaluation.withinCall, if_neg full]
    exact (gentle { machine with depth := machine.depth + 1 } tame).finish endOfCall
      (fun lasting => lasting.endOfCall) fun _ after => ⟨_, rfl⟩

end Gentle

end Evaluation
end Scripting
