import Scripting.Proofs.CallDepth
import Scripting.Proofs.HeededSignals

namespace Scripting
namespace Evaluation

/-!
How interrupts come up through a program.

A form of a program is evaluated in terms of an evaluator for its parts.  Suppose that only
some answers of this evaluator are known, and that they heed their enclosures.  A run of the
form then either needs nothing else, and heeds its own enclosure, or it comes to a task whose
answer is not known.  In that case whatever interrupts the task goes on to interrupt the run,
unless the form takes it: a loop takes the jumps of its body that are meant for it, and a
call takes the returns of the function that it enters.  This is shown of every form, so that
it can be followed through any number of tasks.
-/

open Data (Fault Function Heap Value)
open Program (AssignOp BinaryOp CompareOp Enclosure LoopHeader Node Target)
open Source (Document Span)

/-- Where a task may stand: a node wherever it is well scoped, and a call outside of everything. -/
def Task.Lies (around : Enclosure) : Task → Prop
  | .evaluate node _ => node.wellScoped around = true
  | .call .. => around = .outside

/-- The site of the call that a task makes. -/
def Task.site? : Task → Option CallSite
  | .evaluate ⟨span, .call _ arguments⟩ frame => some ⟨frame, span, arguments.map (·.span)⟩
  | .evaluate _ _ => none
  | .call _ _ site => some site

/--
A signal of an inner task is meant for the outer one: a jump for a loop that it addresses, from
its body, and a return for a call, from the body of a function that is entered there.
-/
inductive Takes : Task → Task → Signal → Prop
  | loop {span : Span} {label : Option String} {header : LoopHeader Node} {body : Node}
      {block : Bool} {frame : Frame} {jump : Data.Jump} {target : Option String}
      {place : Source.Place} (addressed : isAddressed target label = true) :
      Takes (.evaluate ⟨span, .loop label header body block⟩ frame) (.evaluate body frame)
        (.jumped jump target place)
  | call {task : Task} {site : CallSite} {function : Function} {scope : Data.Scope}
      {value : Value} {place : Source.Place} (calls : task.site? = some site) :
      Takes task (.evaluate function.body (calleeFrame function site scope))
        (.returned value place)

/-- The program in the file that an import finds, if there is one and it can be read. -/
def importedProgram? (settings : Settings) (files : Files.Tree) (name : String) : Option Node :=
  match (moduleFiles settings name).find? files.isFile with
  | none => none
  | some path =>
      match files.readText path with
      | .error _ => none
      | .ok text => (Grammar.readProgram {} text).1.toOption

/-- If a task imports a module from a file, the module is well scoped. -/
def Task.importsScoped (settings : Settings) (machine : Machine) : Task → Bool
  | .evaluate ⟨_, .importModule name _⟩ _ =>
      Program.optionWellScoped .outside (importedProgram? settings machine.files name)
  | _ => true

/--
An evaluator some of whose answers are known, and the signals that are taken from the tasks
that are not.  What is known heeds its enclosures.
-/
structure Watch where
  self : Evaluator
  known : Task → Machine → Prop
  takes : Task → Signal → Prop
  heeded : ∀ {around : Enclosure} {task : Task} {machine : Machine}, known task machine →
    task.Lies around → machine.heap.Scoped → Heeded around anything (self task machine)

/-- An evaluator with the answers that are known. -/
def Watch.Fits (watch : Watch) (other : Evaluator) : Prop :=
  ∀ task machine, watch.known task machine → other task machine = watch.self task machine

/--
A run needs only what is known and ends as its enclosure asks, or it comes to a task that is
not known.  In that case an interrupt of the task is passed on unless it is taken.
-/
inductive Followed (watch : Watch) (around : Enclosure) {α : Type} (good : α → Prop)
    (run : Evaluator → Ending α) : Prop
  | settled {ending : Ending α} (heeded : Heeded around good ending)
      (same : ∀ other, watch.Fits other → run other = ending)
  | waiting {inner : Enclosure} {task : Task} {machine : Machine}
      (unknown : ¬ watch.known task machine) (lies : task.Lies inner)
      (clean : machine.heap.Scoped)
      (passed : ∀ other, watch.Fits other → ∀ {interrupt : Interrupt} {after : Machine},
        Admits inner interrupt → other task machine = .error interrupt after →
          (Admits around interrupt ∧ ∃ final, run other = .error interrupt final) ∨
            ∃ signal, interrupt = .signal signal ∧ watch.takes task signal)

/-- An action in terms of an evaluator is followed from every machine with well-scoped functions. -/
def Follows (watch : Watch) (around : Enclosure) {α : Type} (action : Evaluator → Action α)
    (good : α → Prop) : Prop :=
  ∀ machine, machine.heap.Scoped → Followed watch around good fun self => action self machine

variable {watch : Watch} {around : Enclosure} {frame : Frame} {α β : Type}

/-! ## What stops signals -/

/-- A loop around the body answers what is meant for it; the rest is left to the others. -/
theorem answers_inLoop (around : Enclosure) (label target : Option String) :
    (around.inLoop label).answers target = (isAddressed target label || around.answers target) := by
  cases target with
  | none => rfl
  | some name =>
      have same : (some name == label) = decide (label = some name) := by
        rw [Bool.eq_iff_iff, beq_iff_eq, decide_eq_true_eq]
        exact eq_comm
      simp only [Enclosure.answers, Enclosure.inLoop, isAddressed, List.contains_cons, same]

section Stops

variable {action : Action Value} {machine after : Machine} {interrupt : Interrupt}
  {good : Value → Prop}

/-- A loop passes on what its body may send, but for the jumps that are meant for it. -/
theorem answering_of_error (label : Option String)
    (admitted : Admits (around.inLoop label) interrupt)
    (ended : action machine = .error interrupt after) :
    (Admits around interrupt ∧ answering label action machine = .error interrupt after) ∨
      ∃ jump target place, interrupt = .signal (.jumped jump target place) ∧
        isAddressed target label = true := by
  unfold answering
  rw [ended]
  match interrupt with
  | .error error => exact .inl ⟨admitted, rfl⟩
  | .signal (.returned _ _) => exact .inl ⟨admitted, rfl⟩
  | .signal (.jumped jump target place) =>
      have answered : (isAddressed target label || around.answers target) = true :=
        answers_inLoop around label target ▸ admitted
      cases addressed : isAddressed target label with
      | true => exact .inr ⟨jump, target, place, rfl, addressed⟩
      | false =>
          rw [addressed, Bool.false_or] at answered
          refine .inl ⟨answered, ?_⟩
          simp only [addressed, Bool.false_eq_true, if_false]
  | .signal (.exited _) => exact .inl ⟨trivial, rfl⟩
  | .crashed _ => exact .inl ⟨trivial, rfl⟩
  | .outOfFuel => exact .inl ⟨trivial, rfl⟩

/-- A function passes on what its body may send, but for returns. -/
theorem catchReturn_of_error (frame : Frame) (admitted : Admits .function interrupt)
    (ended : action machine = .error interrupt after) :
    (Admits .outside interrupt ∧ catchReturn frame action machine = .error interrupt after) ∨
      ∃ value place, interrupt = .signal (.returned value place) := by
  unfold catchReturn
  rw [ended]
  match interrupt with
  | .error error => exact .inl ⟨admitted, rfl⟩
  | .signal (.returned value place) => exact .inr ⟨value, place, rfl⟩
  | .signal (.jumped _ none _) => cases admitted
  | .signal (.jumped _ (some _) _) => cases admitted
  | .signal (.exited _) => exact .inl ⟨trivial, rfl⟩
  | .crashed _ => exact .inl ⟨trivial, rfl⟩
  | .outOfFuel => exact .inl ⟨trivial, rfl⟩

/-- Nothing that may be sent outside of everything needs to be kept in. -/
theorem contain_of_error (frame : Frame) (admitted : Admits .outside interrupt)
    (ended : action machine = .error interrupt after) :
    contain frame action machine = .error interrupt after := by
  unfold contain
  rw [ended]
  match interrupt with
  | .error error => rfl
  | .signal (.returned _ _) => cases admitted
  | .signal (.jumped _ none _) => cases admitted
  | .signal (.jumped _ (some _) _) => cases admitted
  | .signal (.exited _) => rfl
  | .crashed _ => rfl
  | .outOfFuel => rfl

theorem Heeded.answering {label : Option String}
    (heeded : Heeded (around.inLoop label) good (action machine)) :
    Heeded around anything (answering label action machine) := by
  generalize ended : action machine = ending at heeded
  cases heeded with
  | value clean _ =>
      simp only [Evaluation.answering, ended]
      exact .value clean trivial
  | interrupt clean admitted =>
      rcases answering_of_error label admitted ended with
        ⟨passes, same⟩ | ⟨jump, target, place, rfl, addressed⟩
      · rw [same]
        exact .interrupt clean passes
      · simp only [Evaluation.answering, ended, addressed, if_true]
        exact .value clean trivial

theorem Heeded.catchReturn (heeded : Heeded .function good (action machine)) :
    Heeded .outside anything (catchReturn frame action machine) := by
  generalize ended : action machine = ending at heeded
  cases heeded with
  | value clean _ =>
      simp only [Evaluation.catchReturn, ended]
      exact .value clean trivial
  | interrupt clean admitted =>
      rcases catchReturn_of_error frame admitted ended with ⟨passes, same⟩ | ⟨value, place, rfl⟩
      · rw [same]
        exact .interrupt clean passes
      · simp only [Evaluation.catchReturn, ended]
        exact .value clean trivial

theorem Heeded.contain (heeded : Heeded .outside good (action machine)) :
    Heeded .outside good (contain frame action machine) := by
  generalize ended : action machine = ending at heeded
  cases heeded with
  | value clean holds =>
      simp only [Evaluation.contain, ended]
      exact .value clean holds
  | interrupt clean admitted =>
      rw [contain_of_error frame admitted ended]
      exact .interrupt clean admitted

end Stops

/-! ## Composition -/

namespace Followed

variable {good : α → Prop} {run run' : Evaluator → Ending α}

/-- Only what a run does with the answers that are known matters. -/
theorem congr (followed : Followed watch around good run)
    (same : ∀ other, watch.Fits other → run' other = run other) :
    Followed watch around good run' := by
  cases followed with
  | settled heeded agrees =>
      exact .settled heeded fun other fits => (same other fits).trans (agrees other fits)
  | waiting unknown lies clean passed =>
      refine .waiting unknown lies clean ?_
      intro other fits interrupt after admitted ended
      rw [same other fits]
      exact passed other fits admitted ended

theorem anywhere (followed : Followed watch .outside good run) : Followed watch around good run := by
  cases followed with
  | settled heeded same => exact .settled heeded.anywhere same
  | waiting unknown lies clean passed =>
      refine .waiting unknown lies clean ?_
      intro other fits interrupt after admitted ended
      rcases passed other fits admitted ended with ⟨passes, goesOn⟩ | taken
      · exact .inl ⟨passes.anywhere around, goesOn⟩
      · exact .inr taken

/-- A sequence whose first action is followed goes on that way. -/
theorem bind {action : Evaluator → Action α} {next : Evaluator → α → Action β}
    {good' : β → Prop} {machine : Machine}
    (first : Followed watch around good fun self => action self machine)
    (rest : ∀ value, good value → ∀ machine, machine.heap.Scoped →
      Followed watch around good' fun self => next self value machine) :
    Followed watch around good' fun self => (action self >>= next self) machine := by
  rcases first with ⟨heeded, same⟩ | ⟨unknown, lies, found, passed⟩
  · cases heeded with
    | @value value after clean holds =>
        refine (rest value holds after clean).congr ?_
        intro other fits
        rw [bind_apply, same other fits]
    | @interrupt interrupt after clean admitted =>
        refine .settled (.interrupt clean admitted) ?_
        intro other fits
        exact bind_of_error (same other fits) (next other)
  · refine .waiting unknown lies found ?_
    intro other fits interrupt after admitted ended
    rcases passed other fits admitted ended with ⟨passes, final, ended⟩ | taken
    · exact .inl ⟨passes, final, bind_of_error ended (next other)⟩
    · exact .inr taken

/-- A task and what is done with its answer. -/
theorem ask {inner : Enclosure} {machine : Machine} (task : Task)
    (wrap : Ending Value → Ending α) (lies : task.Lies inner) (clean : machine.heap.Scoped)
    (heeded : ∀ ending, Heeded inner anything ending → Heeded around good (wrap ending))
    (passed : ∀ {interrupt after}, Admits inner interrupt →
      (Admits around interrupt ∧
        wrap (.error interrupt after) = .error interrupt after) ∨
        ∃ signal, interrupt = .signal signal ∧ watch.takes task signal) :
    Followed watch around good fun self => wrap (self task machine) := by
  by_cases known : watch.known task machine
  · refine .settled (heeded _ (watch.heeded known lies clean)) ?_
    intro other fits
    exact congrArg wrap (fits task machine known)
  · refine .waiting known lies clean ?_
    intro other _ interrupt after admitted ended
    rcases passed admitted with ⟨passes, same⟩ | taken
    · exact .inl ⟨passes, after, (congrArg wrap ended).trans same⟩
    · exact .inr taken

end Followed

namespace Follows

theorem anywhere {action : Evaluator → Action α} {good : α → Prop}
    (follows : Follows watch .outside action good) : Follows watch around action good :=
  fun machine clean => (follows machine clean).anywhere

/-- An action that does not ask for anything. -/
theorem steady {action : Action α} {good : α → Prop} (heeds : Heeds around action good) :
    Follows watch around (fun _ => action) good :=
  fun machine clean => .settled (heeds machine clean) fun _ _ => rfl

theorem pure {value : α} {good : α → Prop} (holds : good value) :
    Follows watch around (fun _ => Pure.pure value) good :=
  steady (.pure holds)

theorem look {look : Heap → α} : Follows watch around (fun _ => readHeap look) anything :=
  steady .look

theorem bind {action : Evaluator → Action α} {next : Evaluator → α → Action β} {good : α → Prop}
    {good' : β → Prop} (first : Follows watch around action good)
    (rest : ∀ value, good value → Follows watch around (fun self => next self value) good') :
    Follows watch around (fun self => action self >>= next self) good' :=
  fun machine clean => (first machine clean).bind rest

/-- A sequence in which it does not matter what the first action gives. -/
theorem andThen {action : Evaluator → Action α} {next : Evaluator → α → Action β}
    {good : β → Prop} (first : Follows watch around action anything)
    (rest : ∀ value, Follows watch around (fun self => next self value) good) :
    Follows watch around (fun self => action self >>= next self) good :=
  first.bind fun value _ => rest value

theorem ite {condition : Prop} [Decidable condition] {yes no : Evaluator → Action α}
    {good : α → Prop} (positive : Follows watch around yes good)
    (negative : Follows watch around no good) :
    Follows watch around (fun self => if condition then yes self else no self) good := by
  by_cases decided : condition
  · simp only [if_pos decided]
    exact positive
  · simp only [if_neg decided]
    exact negative

theorem evaluate {node : Node} (inside : node.wellScoped around = true) (frame : Frame) :
    Follows watch around (fun self => self.eval node frame) anything :=
  fun _ clean => .ask (.evaluate node frame) id inside clean (fun _ heeded => heeded)
    fun admitted => .inl ⟨admitted, rfl⟩

/-- Neither a jump nor a return leaves a call. -/
theorem call (callee : Value) (arguments : List (Option Value)) (site : CallSite) :
    Follows watch .outside (fun self => self (.call callee arguments site)) anything :=
  fun _ clean => .ask (.call callee arguments site) id rfl clean (fun _ heeded => heeded)
    fun admitted => .inl ⟨admitted, rfl⟩

/-- A loop takes the jumps of its body that are meant for it. -/
theorem runPass {label : Option String} {body : Node}
    (inside : body.wellScoped (around.inLoop label) = true)
    (taken : ∀ jump target place, isAddressed target label = true →
      watch.takes (.evaluate body frame) (.jumped jump target place)) :
    Follows watch around (fun self => runPass self frame label body) anything := by
  intro machine clean
  refine .ask (.evaluate body frame) (fun ending => answering label (fun _ => ending) machine)
    inside clean (fun _ heeded => heeded.answering) ?_
  intro interrupt after admitted
  rcases answering_of_error label admitted rfl with passes | ⟨jump, target, place, rfl, addressed⟩
  · exact .inl passes
  · exact .inr ⟨_, rfl, taken jump target place addressed⟩

/-- A function takes the returns of its body. -/
theorem catchReturn {function : Function} (inside : function.body.wellScoped .function = true)
    (taken : ∀ value place,
      watch.takes (.evaluate function.body frame) (.returned value place)) :
    Follows watch .outside (fun self => catchReturn frame (evalBody self frame function))
      anything := by
  intro machine clean
  refine .ask (.evaluate function.body frame)
    (fun ending => Evaluation.catchReturn frame (evalBody (fun _ _ => ending) frame function) machine)
    inside clean (fun ending heeded => ?_) ?_
  · have body : Heeds .function (evalBody (fun _ _ => ending) frame function) anything :=
      Heeds.andThen (fun _ _ => heeded) fun _ => .pure trivial
    exact (body machine clean).catchReturn
  · intro interrupt after admitted
    rcases catchReturn_of_error frame admitted rfl with passes | ⟨value, place, rfl⟩
    · exact .inl passes
    · exact .inr ⟨_, rfl, taken value place⟩

/-- What runs outside of everything sends nothing that would have to be kept in. -/
theorem contain {body : Node} (inside : body.wellScoped .outside = true) (frame : Frame) :
    Follows watch .outside (fun self => contain frame (self.eval body frame)) anything := by
  intro machine clean
  refine .ask (.evaluate body frame) (fun ending => Evaluation.contain frame (fun _ => ending) machine)
    inside clean (fun _ heeded => heeded.contain) ?_
  intro interrupt after admitted
  exact .inl ⟨admitted, contain_of_error frame admitted rfl⟩

/-- A level more makes no difference to what is sent. -/
theorem withinCall {settings : Settings} {span : Span} {action : Evaluator → Action α}
    {good : α → Prop} (follows : Follows watch around action good) :
    Follows watch around (fun self => withinCall settings frame span (action self)) good := by
  intro machine clean
  by_cases full : settings.maxDepth ≤ machine.depth
  · have refused : Heeds around (raise frame span .recursionLimit) good := .raise rfl
    exact .settled (refused machine clean) fun other _ =>
      withinCall_of_full full frame span (action other)
  · have entered : ∀ self : Evaluator,
        Evaluation.withinCall settings frame span (action self) machine =
          endOfCall (action self { machine with depth := machine.depth + 1 }) :=
      fun self => if_neg full
    rcases follows { machine with depth := machine.depth + 1 } clean with
      ⟨heeded, same⟩ | ⟨unknown, lies, found, passed⟩
    · refine .settled ?_ fun other fits =>
        (entered other).trans (congrArg endOfCall (same other fits))
      cases heeded with
      | value clean holds => exact .value clean holds
      | interrupt clean admitted => exact .interrupt clean admitted
    · refine .waiting unknown lies found ?_
      intro other fits interrupt after admitted ended
      rcases passed other fits admitted ended with ⟨passes, final, ended⟩ | taken
      · exact .inl ⟨passes, _, (entered other).trans (congrArg endOfCall ended)⟩
      · exact .inr taken

end Follows

end Evaluation
end Scripting
