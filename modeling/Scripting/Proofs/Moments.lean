import Mathlib.Logic.Relation
import Scripting.Proofs.Containment
import Scripting.Proofs.FollowedForms

namespace Scripting
namespace Evaluation

/-!
Runs followed from task to task.

A run is followed down to the tasks that it is performed in terms of.  Whatever comes up in
it stands in an enclosure that it is well scoped in, functions that were defined long before
and modules included.  Followed upwards again, a signal is passed on from task to task until
the first one that it is meant for takes it.

Whether all modules that a run imports are well scoped cannot be told from its program alone,
since programs write files.  It can be told by running it: a guard at the imports makes no
difference to such a run, and ends any other.
-/

open Data (Function Value)
open Program (Enclosure LoopHeader Node)
open Source (Document Place Span)

/-- A task with the machine and the fuel that it is performed with. -/
structure Moment where
  fuel : Nat
  task : Task
  machine : Machine

namespace Moment

/-- How the task ends. -/
def ending (settings : Settings) (moment : Moment) : Ending Value :=
  perform settings moment.fuel moment.task moment.machine

/-- One task is performed in terms of the other. -/
def Asks (settings : Settings) (outer inner : Moment) : Prop :=
  outer.fuel = inner.fuel + 1 ∧
    Evaluation.Asks
      (fun self => performWith settings inner.fuel self outer.task outer.machine)
      (perform settings inner.fuel) inner.task inner.machine

/-- One task comes up while the other is performed. -/
def Reaches (settings : Settings) : Moment → Moment → Prop :=
  Relation.ReflTransGen (Asks settings)

/-- The task ends in a signal that a loop or a function may take for its own. -/
def Sends (settings : Settings) (moment : Moment) (signal : Signal) : Prop :=
  ∃ after, Evaluation.Sends (moment.ending settings) signal after

/-- Something is true of every task that comes up. -/
def Throughout (settings : Settings) (condition : Task → Machine → Bool) (moment : Moment) :
    Prop :=
  ∀ inner, moment.Reaches settings inner → condition inner.task inner.machine = true

/-- Every module that is imported from a file is well scoped. -/
def ImportsScoped (settings : Settings) (moment : Moment) : Prop :=
  ∀ inner, moment.Reaches settings inner →
    inner.task.importsScoped settings inner.machine = true

/--
A signal comes up from the task that sent it.  All tasks on its way end in it, and it is meant
for none of them.
-/
inductive Carries (settings : Settings) (signal : Signal) (origin : Moment) : Moment → Prop
  | sent (sends : origin.Sends settings signal) : Carries settings signal origin origin
  | passed {outer inner : Moment} (asks : outer.Asks settings inner)
      (sends : outer.Sends settings signal) (meant : ¬ Takes outer.task inner.task signal)
      (below : Carries settings signal origin inner) : Carries settings signal origin outer

/--
A signal of an inner task is consumed by the outer one: the pass of the loop is over, or the
function has its result.
-/
inductive Consumes (settings : Settings) : Moment → Moment → Signal → Prop
  | loop {fuel : Nat} {span : Span} {label : Option String} {header : LoopHeader Node}
      {body : Node} {block : Bool} {frame : Frame} {jump : Data.Jump} {target : Option String}
      {place : Place} {machine between after : Machine}
      (addressed : isAddressed target label = true)
      (ends : runPass (perform settings fuel) frame label body between = .ok (passOf jump) after) :
      Consumes settings ⟨fuel + 1, .evaluate ⟨span, .loop label header body block⟩ frame, machine⟩
        ⟨fuel, .evaluate body frame, between⟩ (.jumped jump target place)
  | call {fuel : Nat} {task : Task} {site : CallSite} {function : Function} {scope : Data.Scope}
      {value : Value} {place : Place} {machine between after : Machine}
      (calls : task.site? = some site)
      (result : catchReturn (calleeFrame function site scope)
        (evalBody (perform settings fuel) (calleeFrame function site scope) function) between =
          .ok value after) :
      Consumes settings ⟨fuel + 1, task, machine⟩
        ⟨fuel, .evaluate function.body (calleeFrame function site scope), between⟩
        (.returned value place)

/--
On the way from a task down to one that sends a signal, some task consumes the signal, and those
below pass it on.
-/
def Consumed (settings : Settings) (root origin : Moment) (signal : Signal) : Prop :=
  ∃ outer inner, root.Reaches settings outer ∧ outer.Asks settings inner ∧
    Consumes settings outer inner signal ∧ Carries settings signal origin inner

/-- A task in a place where it is well scoped, with functions and modules that are well scoped. -/
structure Orderly (settings : Settings) (around : Enclosure) (moment : Moment) : Prop where
  lies : moment.task.Lies around
  clean : moment.machine.heap.Scoped
  imports : moment.ImportsScoped settings

section Throughout

variable {settings : Settings} (condition : Task → Machine → Bool) {moment outer inner : Moment}

variable {condition} in
theorem Throughout.inside (holds : outer.Throughout settings condition)
    (asks : outer.Asks settings inner) : inner.Throughout settings condition :=
  fun deeper reaches => holds deeper (.head asks reaches)

theorem throughout_iff :
    moment.Throughout settings condition ↔
      condition moment.task moment.machine = true ∧
        ∀ inner, moment.Asks settings inner → inner.Throughout settings condition := by
  constructor
  · intro holds
    exact ⟨holds moment .refl, fun inner asks => holds.inside asks⟩
  · rintro ⟨here, below⟩ deeper reaches
    rcases reaches.cases_head with rfl | ⟨inner, asks, rest⟩
    · exact here
    · exact below inner asks deeper rest

theorem ImportsScoped.inside (imports : outer.ImportsScoped settings)
    (asks : outer.Asks settings inner) : inner.ImportsScoped settings :=
  fun deeper reaches => imports deeper (.head asks reaches)

end Throughout

end Moment

/-! ## Unknown answers -/

/-- A run that waits for an answer asks for it: if the task is interrupted, so is the run. -/
theorem asks_of_passed {watch : Watch} {around inner : Enclosure} {α : Type}
    {run : Evaluator → Ending α} {task : Task} {machine : Machine}
    (unknown : ¬ watch.known task machine)
    (passed : ∀ other, watch.Fits other → ∀ {interrupt : Interrupt} {after : Machine},
      Admits inner interrupt → other task machine = .error interrupt after →
        (Admits around interrupt ∧ ∃ final, run other = .error interrupt final) ∨
          ∃ signal, interrupt = .signal signal ∧ watch.takes task signal)
    (exits : ∀ code, ¬ watch.takes task (.exited code)) : Asks run watch.self task machine := by
  classical
  let stopped (interrupt : Interrupt) : Evaluator := fun task' machine' =>
    if task' = task ∧ machine' = machine then .error interrupt machine
    else watch.self task' machine'
  have elsewhere : ∀ interrupt task' machine', ¬ (task' = task ∧ machine' = machine) →
      stopped interrupt task' machine' = watch.self task' machine' :=
    fun interrupt task' machine' apart => if_neg apart
  have fits : ∀ interrupt, watch.Fits (stopped interrupt) := by
    intro interrupt task' machine' known
    refine elsewhere interrupt task' machine' ?_
    rintro ⟨rfl, rfl⟩
    exact unknown known
  -- The run may itself be out of fuel, but it cannot be that and an exit at once.
  have starves : ∃ final, run (stopped .outOfFuel) = .error .outOfFuel final := by
    rcases @passed _ (fits _) .outOfFuel machine trivial (if_pos ⟨rfl, rfl⟩) with
      ⟨_, ended⟩ | ⟨_, same, _⟩
    · exact ended
    · cases same
  have leaves : ∃ final,
      run (stopped (.signal (.exited 0))) = .error (.signal (.exited 0)) final := by
    rcases @passed _ (fits _) (.signal (.exited 0)) machine trivial (if_pos ⟨rfl, rfl⟩) with
      ⟨_, ended⟩ | ⟨_, same, taken⟩
    · exact ended
    · cases same
      exact absurd taken (exits 0)
  by_cases same : run (stopped .outOfFuel) = run watch.self
  · refine ⟨stopped (.signal (.exited 0)), elsewhere _, ?_⟩
    intro differs
    obtain ⟨final, starved⟩ := starves
    obtain ⟨final', left⟩ := leaves
    rw [differs, ← same, starved] at left
    cases left
  · exact ⟨stopped .outOfFuel, elsewhere _, same⟩

/-- A run that needs only what is known asks for nothing else. -/
theorem known_of_asks {watch : Watch} {α : Type} {run : Evaluator → Ending α} {ending : Ending α}
    {task : Task} {machine : Machine} (same : ∀ other, watch.Fits other → run other = ending)
    (asked : Asks run watch.self task machine) : watch.known task machine := by
  obtain ⟨other, elsewhere, differs⟩ := asked
  refine Classical.byContradiction fun unknown => differs ?_
  have fits : watch.Fits other := by
    intro task' machine' known
    refine elsewhere task' machine' ?_
    rintro ⟨rfl, rfl⟩
    exact unknown known
  exact (same other fits).trans (same watch.self fun _ _ _ => rfl).symm

theorem not_takes_exit {outer inner : Task} (code : Int32) : ¬ Takes outer inner (.exited code) :=
  nofun

namespace Moment

variable {settings : Settings} {around : Enclosure} {signal : Signal} {outer inner origin : Moment}

/--
An orderly task heeds its enclosure.  The tasks that it asks for are orderly as far as imports
go, so there is no other task that it could wait for.
-/
theorem Orderly.heeded {moment : Moment} (orderly : moment.Orderly settings around) :
    Heeded around anything (moment.ending settings) := by
  rcases moment with ⟨fuel, task, machine⟩
  induction fuel generalizing around task machine with
  | zero => exact .interrupt orderly.clean trivial
  | succ fuel ih =>
      let watch : Watch :=
        { self := perform settings fuel
          known := fun task machine => (Moment.mk fuel task machine).ImportsScoped settings
          takes := Takes task
          heeded := fun imports lies clean => ih _ _ ⟨lies, clean, imports⟩ }
      have followed : Followed watch around anything
          fun self => performWith settings fuel self task machine :=
        followed_performWith orderly.lies (orderly.imports _ .refl) id orderly.clean fuel
      rcases followed with ⟨heeded, same⟩ | ⟨unknown, lies, clean, passed⟩
      · rw [← same watch.self fun _ _ _ => rfl] at heeded
        exact heeded
      · have asked := asks_of_passed unknown passed not_takes_exit
        exact absurd (orderly.imports.inside ⟨rfl, asked⟩) unknown

/--
What an orderly task asks for is orderly, and it passes on the signals that come from there
unless they are meant for it.
-/
theorem Orderly.step (orderly : outer.Orderly settings around) (asks : outer.Asks settings inner) :
    (∃ within, inner.Orderly settings within) ∧
      ∀ signal, inner.Sends settings signal →
        outer.Sends settings signal ∨ Takes outer.task inner.task signal := by
  have imports := orderly.imports.inside asks
  rcases outer with ⟨_, task, machine⟩
  rcases inner with ⟨fuel, part, between⟩
  obtain ⟨rfl, asked⟩ := asks
  -- Suppose that all answers are known but this one.
  let watch : Watch :=
    { self := perform settings fuel
      known := fun task' machine' =>
        (Moment.mk fuel task' machine').ImportsScoped settings ∧
          ¬ (task' = part ∧ machine' = between)
      takes := Takes task
      heeded := fun known lies clean => Orderly.heeded ⟨lies, clean, known.1⟩ }
  have same : watch.Fits watch.self := fun _ _ _ => rfl
  have followed : Followed watch around anything
      fun self => performWith settings fuel self task machine :=
    followed_performWith orderly.lies (orderly.imports _ .refl) id orderly.clean fuel
  rcases followed with ⟨_, agree⟩ | @⟨within, task', machine', unknown, lies, clean, passed⟩
  · exact absurd ⟨rfl, rfl⟩ (known_of_asks agree asked).2
  · have asked : Evaluation.Asks (fun self => performWith settings fuel self task machine)
        (perform settings fuel) task' machine' :=
      asks_of_passed unknown passed not_takes_exit
    have known : (Moment.mk fuel task' machine').ImportsScoped settings :=
      orderly.imports.inside ⟨rfl, asked⟩
    obtain ⟨rfl, rfl⟩ : task' = part ∧ machine' = between :=
      Classical.byContradiction fun apart => unknown ⟨known, apart⟩
    have inside : Orderly settings within ⟨fuel, task', machine'⟩ := ⟨lies, clean, imports⟩
    refine ⟨⟨within, inside⟩, ?_⟩
    rintro signal ⟨after, ended, isLocal⟩
    have admitted : Admits within (.signal signal) := by
      have heeded := inside.heeded
      rw [ended] at heeded
      cases heeded with
      | interrupt _ admitted => exact admitted
    rcases passed watch.self same admitted ended with ⟨_, final, ended⟩ | ⟨_, same, taken⟩
    · exact .inl ⟨final, ended, isLocal⟩
    · cases same
      exact .inr taken

/-! ## Signals on their way -/

theorem Carries.sends {moment : Moment} (carries : Carries settings signal origin moment) :
    moment.Sends settings signal := by
  cases carries with
  | sent sends => exact sends
  | passed asks sends meant below => exact sends

theorem runPass_of_jump {self : Evaluator} {frame : Frame} {body : Node}
    {label target : Option String} {jump : Data.Jump} {place : Place} {machine after : Machine}
    (addressed : isAddressed target label = true)
    (ended : self (.evaluate body frame) machine =
      .error (.signal (.jumped jump target place)) after) :
    runPass self frame label body machine = .ok (passOf jump) after := by
  unfold runPass Evaluator.eval
  rw [ended]
  simp only [addressed, if_true]

theorem catchReturn_of_return {self : Evaluator} {frame : Frame} {function : Function}
    {value : Value} {place : Place} {machine after : Machine}
    (ended : self (.evaluate function.body frame) machine =
      .error (.signal (.returned value place)) after) :
    catchReturn frame (evalBody self frame function) machine = .ok value after := by
  have body : evalBody self frame function machine =
      .error (.signal (.returned value place)) after := bind_of_error ended _
  unfold catchReturn
  rw [body]

/-- What is meant for a task that asks for it is consumed there. -/
theorem consumes_of_takes (asks : outer.Asks settings inner)
    (takes : Takes outer.task inner.task signal) (sends : inner.Sends settings signal) :
    Consumes settings outer inner signal := by
  rcases outer with ⟨_, task, machine⟩
  rcases inner with ⟨fuel, part, between⟩
  obtain ⟨rfl, _⟩ := asks
  obtain ⟨after, ended, _⟩ := sends
  cases takes with
  | loop addressed => exact .loop addressed (runPass_of_jump addressed ended)
  | call calls => exact .call calls (catchReturn_of_return ended)

/-- A signal is on its way up through a task, or it has been consumed below. -/
theorem Orderly.carries_or_consumed {moment : Moment} (orderly : moment.Orderly settings around)
    (reaches : moment.Reaches settings origin) (sends : origin.Sends settings signal) :
    Carries settings signal origin moment ∨ Consumed settings moment origin signal := by
  induction reaches using Relation.ReflTransGen.head_induction_on generalizing around with
  | refl => exact .inl (.sent sends)
  | @head outer inner asks below ih =>
      obtain ⟨⟨within, inside⟩, passes⟩ := orderly.step asks
      rcases ih inside with carries | ⟨outer', inner', reaches, rest⟩
      · by_cases meant : Takes outer.task inner.task signal
        · have consumed := consumes_of_takes asks meant carries.sends
          exact .inr ⟨outer, inner, .refl, asks, consumed, carries⟩
        · rcases passes signal carries.sends with sends | taken
          · exact .inl (.passed asks sends meant carries)
          · exact absurd taken meant
      · exact .inr ⟨outer', inner', .head asks reaches, rest⟩

/-- Outside of everything no signal is left over. -/
theorem Orderly.consumed {root : Moment} (orderly : root.Orderly settings .outside)
    (reaches : root.Reaches settings origin) (sends : origin.Sends settings signal) :
    Consumed settings root origin signal := by
  rcases orderly.carries_or_consumed reaches sends with carries | consumed
  · obtain ⟨after, ended, isLocal⟩ := carries.sends
    have heeded := orderly.heeded
    rw [ended] at heeded
    cases heeded with
    | interrupt _ admitted =>
        match signal with
        | .returned _ _ => cases admitted
        | .jumped _ none _ => cases admitted
        | .jumped _ (some _) _ => cases admitted
        | .exited _ => cases isLocal
  · exact consumed

end Moment

/-! ## Guarded imports -/

/-- Perform a task unless it imports a module that is not well scoped; in that case exit. -/
def guarded (settings : Settings) (code : Int32) (task : Task) (action : Action Value) :
    Action Value := fun machine =>
  if task.importsScoped settings machine then action machine
  else .error (.signal (.exited code)) machine

/-- Evaluation in which all imports are guarded. -/
def performGuarded (settings : Settings) (code : Int32) : Nat → Evaluator
  | 0, task => guarded settings code task (throw .outOfFuel)
  | fuel + 1, task =>
      guarded settings code task
        (performWith settings fuel (performGuarded settings code fuel) task)

/-- Whether an ending is an exit with a given code. -/
def exitsWith {α : Type} (code : Int32) : Ending α → Bool
  | .error (.signal (.exited other)) _ => other = code
  | _ => false

namespace Moment

variable {settings : Settings} {around : Enclosure} {moment : Moment}

theorem importsScoped_iff :
    moment.ImportsScoped settings ↔
      moment.task.importsScoped settings moment.machine = true ∧
        ∀ inner, moment.Asks settings inner → inner.ImportsScoped settings :=
  throughout_iff fun task machine => task.importsScoped settings machine

theorem performGuarded_of_stray {task : Task} {machine : Machine}
    (stray : task.importsScoped settings machine = false) (code : Int32) (fuel : Nat) :
    performGuarded settings code fuel task machine = .error (.signal (.exited code)) machine := by
  cases fuel with
  | zero => simp only [performGuarded, guarded, stray, Bool.false_eq_true, if_false]
  | succ fuel => simp only [performGuarded, guarded, stray, Bool.false_eq_true, if_false]

/-- A guard does nothing in a run that imports only what is well scoped, and ends any other. -/
theorem guard_idle_or_exits (lies : moment.task.Lies around)
    (clean : moment.machine.heap.Scoped) (code : Int32) :
    (moment.ImportsScoped settings →
      performGuarded settings code moment.fuel moment.task moment.machine =
        moment.ending settings) ∧
    (¬ moment.ImportsScoped settings → ∃ after,
      performGuarded settings code moment.fuel moment.task moment.machine =
        .error (.signal (.exited code)) after) := by
  rcases moment with ⟨fuel, task, machine⟩
  induction fuel generalizing around task machine with
  | zero =>
      cases here : task.importsScoped settings machine with
      | false =>
          refine ⟨fun imports => ?_, fun _ => ⟨machine, performGuarded_of_stray here code 0⟩⟩
          exact absurd ((imports _ .refl).symm.trans here) nofun
      | true =>
          refine ⟨fun _ => ?_, fun stray => absurd (importsScoped_iff.mpr ⟨here, ?_⟩) stray⟩
          · simp only [performGuarded, guarded, here, if_true]
            rfl
          · rintro inner ⟨less, _⟩
            cases less
  | succ fuel ih =>
      cases here : task.importsScoped settings machine with
      | false =>
          refine ⟨fun imports => ?_, fun _ => ⟨machine, performGuarded_of_stray here code _⟩⟩
          exact absurd ((imports _ .refl).symm.trans here) nofun
      | true =>
          let watch : Watch :=
            { self := perform settings fuel
              known := fun task machine =>
                (∃ around, task.Lies around) ∧ machine.heap.Scoped ∧
                  (Moment.mk fuel task machine).ImportsScoped settings
              takes := Takes task
              heeded := fun known lies clean => Orderly.heeded ⟨lies, clean, known.2.2⟩ }
          have same : watch.Fits watch.self := fun _ _ _ => rfl
          have fits : watch.Fits (performGuarded settings code fuel) := by
            rintro task' machine' ⟨⟨within, lies⟩, clean, imports⟩
            exact (ih task' machine' lies clean).1 imports
          have guardedRun : performGuarded settings code (fuel + 1) task machine =
              performWith settings fuel (performGuarded settings code fuel) task machine := by
            simp only [performGuarded, guarded, here, if_true]
          have followed : Followed watch around anything
              fun self => performWith settings fuel self task machine :=
            followed_performWith lies here id clean fuel
          rw [guardedRun]
          rcases followed with ⟨_, agree⟩ | @⟨within, task', machine', unknown, lies, clean, passed⟩
          · refine ⟨fun _ => (agree _ fits).trans (agree _ same).symm, fun stray => ?_⟩
            refine absurd (importsScoped_iff.mpr ⟨here, ?_⟩) stray
            rintro ⟨less, part, between⟩ ⟨more, asked⟩
            cases more
            exact (known_of_asks agree asked).2.2
          · have stray : ¬ (Moment.mk fuel task' machine').ImportsScoped settings :=
              fun imports => unknown ⟨⟨within, lies⟩, clean, imports⟩
            refine ⟨fun imports => ?_, fun _ => ?_⟩
            · have asked := asks_of_passed unknown passed not_takes_exit
              exact absurd (imports.inside ⟨rfl, asked⟩) stray
            · obtain ⟨after, exits⟩ := (ih task' machine' lies clean).2 stray
              rcases @passed _ fits (.signal (.exited code)) after trivial exits with
                ⟨_, ended⟩ | ⟨_, same, taken⟩
              · exact ended
              · cases same
                exact absurd taken (not_takes_exit code)

/-- To see that a run imports only what is well scoped, it is enough to run it with guards. -/
theorem importsScoped_of_guarded (lies : moment.task.Lies around)
    (clean : moment.machine.heap.Scoped) (code : Int32)
    (stays : exitsWith code
      (performGuarded settings code moment.fuel moment.task moment.machine) = false) :
    moment.ImportsScoped settings := by
  refine Classical.byContradiction fun stray => ?_
  obtain ⟨after, exits⟩ := (guard_idle_or_exits lies clean code).2 stray
  rw [exits] at stays
  exact absurd stays (by simp [exitsWith])

end Moment

end Evaluation
end Scripting
