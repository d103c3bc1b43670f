import Scripting.Proofs.ControlScope
import Scripting.Proofs.GentleForms
import Scripting.Proofs.NewLists

namespace Scripting

/-!
Lists stay as they were made.

Six functions of the language change the list that they are given, and nothing else does.  A
program finds them under their names only.  So in a session whose programs and modules do not
contain these names every list keeps its elements from the moment it is there.

Whether the modules that a run imports lack the names can be told by running it with a screen at
the imports, which makes no difference unless one of them does not.
-/

open Data (Heap Value changerNames preludeFunctions)
open Program (Node)
open Source (Document)

namespace Evaluation

/-! ## From task to task -/

namespace Moment

/-- Every module that is imported from a file has a text without the names. -/
def ImportsPlain (settings : Settings) (moment : Moment) : Prop :=
  moment.Throughout settings fun task machine => task.importsPlain settings machine

/-- A task that cannot get hold of a function that changes lists. -/
structure Tame (settings : Settings) (moment : Moment) : Prop where
  question : moment.task.Tame
  clean : moment.machine.heap.Tame
  imports : moment.ImportsPlain settings

/-- What comes up in the outer task leaves its lists alone, and so does the rest of the task. -/
structure KeepsAround (settings : Settings) (outer inner : Moment) : Prop where
  before : outer.machine.heap.ListsKept inner.machine.heap
  behind : (finalMachine (inner.ending settings)).heap.ListsKept
    (finalMachine (outer.ending settings)).heap

variable {settings : Settings} {outer inner root moment : Moment}

/-- A tame task keeps all lists: the tasks that it is performed in terms of do so before it. -/
theorem Tame.lasting (tame : moment.Tame settings) :
    Lasting moment.machine.heap Value.Tame (moment.ending settings) := by
  rcases moment with ⟨fuel, task, machine⟩
  induction fuel generalizing task machine with
  | zero => exact ⟨tame.clean, .refl _, trivial⟩
  | succ fuel ih =>
      have dialogue := dialogue_performWith tame.question (tame.imports _ .refl) tame.clean fuel
      exact dialogue.lasting fun asked question clean =>
        ih _ _ ⟨question, clean, tame.imports.inside ⟨rfl, asked⟩⟩

/-- What a tame task asks for is tame. -/
theorem Tame.inside (tame : outer.Tame settings) (asks : outer.Asks settings inner) :
    inner.Tame settings ∧ KeepsAround settings outer inner := by
  have imports := tame.imports.inside asks
  rcases outer with ⟨_, task, machine⟩
  rcases inner with ⟨fuel, part, between⟩
  obtain ⟨rfl, asked⟩ := asks
  have dialogue := dialogue_performWith tame.question (tame.imports _ .refl) tame.clean fuel
  have answers : ∀ {task' : Task} {machine' : Machine},
      Evaluation.Asks (fun self => performWith settings fuel self task machine)
        (perform settings fuel) task' machine' → task'.Tame → machine'.heap.Tame →
      Lasting machine'.heap Value.Tame (perform settings fuel task' machine') := by
    intro task' machine' asked question clean
    have inner : Tame settings ⟨fuel, task', machine'⟩ :=
      ⟨question, clean, tame.imports.inside ⟨rfl, asked⟩⟩
    exact inner.lasting
  obtain ⟨⟨question, clean⟩, before, behind⟩ := dialogue.asked answers asked
  exact ⟨⟨question, clean, imports⟩, before, behind⟩

/-- Whatever comes up in a tame task keeps the lists around it. -/
theorem Tame.reached (tame : root.Tame settings) (reaches : root.Reaches settings inner) :
    inner.Tame settings ∧ KeepsAround settings root inner := by
  induction reaches with
  | refl => exact ⟨tame, .refl _, .refl _⟩
  | tail _ asks ih =>
      obtain ⟨between, around⟩ := ih
      obtain ⟨inside, closer⟩ := between.inside asks
      exact ⟨inside, around.before.trans closer.before, closer.behind.trans around.behind⟩

end Moment

/-! ## Screened imports -/

/-- Perform a task unless it imports a module that contains one of the names; exit in that case. -/
def screened (settings : Settings) (code : Int32) (task : Task) (action : Action Value) :
    Action Value := fun machine =>
  if task.importsPlain settings machine then action machine
  else .error (.signal (.exited code)) machine

/-- Evaluation in which all imports are screened. -/
def performScreened (settings : Settings) (code : Int32) : Nat → Evaluator
  | 0, task => screened settings code task (throw .outOfFuel)
  | fuel + 1, task =>
      screened settings code task
        (performWith settings fuel (performScreened settings code fuel) task)

namespace Moment

variable {settings : Settings} {moment : Moment}

/-- A screen does nothing in a run that imports only what lacks the names, and ends any other. -/
theorem screen_idle_or_exits (question : moment.task.Tame) (clean : moment.machine.heap.Tame)
    (code : Int32) :
    (moment.ImportsPlain settings ∧
      performScreened settings code moment.fuel moment.task moment.machine =
        moment.ending settings) ∨
    (¬ moment.ImportsPlain settings ∧ ∃ after,
      performScreened settings code moment.fuel moment.task moment.machine =
        .error (.signal (.exited code)) after) := by
  rcases moment with ⟨fuel, task, machine⟩
  induction fuel generalizing task machine with
  | zero =>
      cases here : task.importsPlain settings machine with
      | false =>
          refine .inr ⟨fun imports => ?_, machine, ?_⟩
          · exact absurd ((imports _ .refl).symm.trans here) nofun
          · simp only [performScreened, screened, here, Bool.false_eq_true, if_false]
      | true =>
          refine .inl ⟨(throughout_iff _).mpr ⟨here, fun inner asks => ?_⟩, ?_⟩
          · cases asks.1
          · simp only [performScreened, screened, here, if_true]
            rfl
  | succ fuel ih =>
      cases here : task.importsPlain settings machine with
      | false =>
          refine .inr ⟨fun imports => ?_, machine, ?_⟩
          · exact absurd ((imports _ .refl).symm.trans here) nofun
          · simp only [performScreened, screened, here, Bool.false_eq_true, if_false]
      | true =>
          have ran : performScreened settings code (fuel + 1) task machine =
              performWith settings fuel (performScreened settings code fuel) task machine := by
            simp only [performScreened, screened, here, if_true]
          have dialogue := dialogue_performWith question here clean fuel
          have answers : ∀ {task : Task} {machine : Machine}, task.Tame → machine.heap.Tame →
              (Moment.mk fuel task machine).ImportsPlain settings →
              Lasting machine.heap Value.Tame (perform settings fuel task machine) ∧
                performScreened settings code fuel task machine =
                  perform settings fuel task machine := by
            intro task machine question clean imports
            rcases ih task machine question clean with ⟨-, same⟩ | ⟨stray, -⟩
            · have tame : Tame settings ⟨fuel, task, machine⟩ := ⟨question, clean, imports⟩
              exact ⟨tame.lasting, same⟩
            · exact absurd imports stray
          have stops : ∀ {task : Task} {machine : Machine}, task.Tame → machine.heap.Tame →
              ¬ (Moment.mk fuel task machine).ImportsPlain settings →
              ∃ after, performScreened settings code fuel task machine =
                .error (.signal (.exited code)) after := by
            intro task machine question clean stray
            rcases ih task machine question clean with ⟨imports, -⟩ | ⟨-, exits⟩
            · exact absurd imports stray
            · exact exits
          rcases dialogue.guarded _ answers stops with ⟨all, same⟩ | ⟨⟨part, between, asked, stray⟩, left⟩
          · refine .inl ⟨(throughout_iff _).mpr ⟨here, ?_⟩, ran.trans same⟩
            rintro ⟨less, part, between⟩ ⟨more, asked⟩
            cases more
            exact all part between asked
          · obtain ⟨after, exits⟩ := left
            refine .inr ⟨fun imports => stray ?_, after, ran.trans exits⟩
            exact imports.inside ⟨rfl, asked⟩

/-- To see that a run imports only what lacks the names, it is enough to run it with screens. -/
theorem importsPlain_of_screened (question : moment.task.Tame) (clean : moment.machine.heap.Tame)
    (code : Int32)
    (stays : exitsWith code
      (performScreened settings code moment.fuel moment.task moment.machine) = false) :
    moment.ImportsPlain settings := by
  rcases screen_idle_or_exits question clean code with ⟨imports, -⟩ | ⟨-, after, exits⟩
  · exact imports
  · rw [exits] at stays
    exact absurd stays (by simp [exitsWith])

end Moment

end Evaluation

namespace Session

open Evaluation
open Files (Tree)

/-! ## Sessions -/

/-- The functions of the prelude are found where they were installed. -/
theorem startHeap_builtin (id : Data.BuiltinId) :
    startHeap.builtin id = preludeFunctions.getD id.index default := by
  change preludeFunctions.toArray.getD id.index default = _
  rw [Array.getD_eq_getD_getElem?, List.getElem?_toArray, List.getD_eq_getElem?_getD]

theorem startHeap_tame : startHeap.Tame where
  lists := nofun
  objects := nofun
  classes := nofun
  functions := nofun
  prelude := by decide
  changers := by
    intro id changes
    rw [startHeap_builtin, List.getD_eq_getElem?_getD] at changes
    unfold Data.BuiltinId.changesList
    cases found : preludeFunctions[id.index]? with
    | none =>
        rw [found] at changes
        cases changes
    | some builtin =>
        rw [found] at changes
        exact changes
  libraries := nofun
  tables := by
    intro table member
    have listed : table ∈ [(({} : Heap).newPrelude).1, .empty] := Array.mem_def.mp member
    rcases List.mem_cons.mp listed with rfl | listed
    · exact Heap.tame_newPrelude
    · rw [List.mem_singleton.mp listed]
      exact Data.Bindings.tame_empty
  exports := by
    intro exported member
    rw [Array.mem_singleton.mp member]
    exact Data.Bindings.tame_empty

/-- A run of a text without the names, which imports only modules without them. -/
structure State.RunsPlainly (state : State) (fuel : Nat) (document : Document) : Prop where
  lacks : Lexical.lacks changerNames state.switches document.text = true
  imports : ∀ program, (Grammar.readProgram state.switches document.text).1 = .ok program →
    (state.moment fuel document program).ImportsPlain state.settings

/-- The states of a session in which none of the names occurs in a program or a module. -/
inductive PlainSession (first : State) : State → Prop
  | start : PlainSession first first
  | run {state : State} (before : PlainSession first state) {fuel : Nat} {document : Document}
      (plain : state.RunsPlainly fuel document) : PlainSession first (state.run fuel document).2
  | runFile {state : State} (before : PlainSession first state) {fuel : Nat} {path : String}
      (plain : ∀ text, state.machine.files.readText path = .ok text →
        state.RunsPlainly fuel ⟨path, text⟩) : PlainSession first (state.runFile fuel path).2
  | outside {state : State} (before : PlainSession first state) (console : Console)
      (files : Tree) :
      PlainSession first
        { state with machine := { state.machine with console := console, files := files } }

namespace State

variable {state : State} {fuel : Nat} {document : Document}

theorem machine_evaluate (state : State) (fuel : Nat) (document : Document) (program : Node) :
    (state.evaluate fuel document program).2.machine =
      finalMachine ((state.moment fuel document program).ending state.settings) := by
  change _ = finalMachine (perform state.settings fuel (.evaluate program (programFrame document))
    state.machine)
  simp only [State.evaluate]
  generalize perform state.settings fuel (.evaluate program (programFrame document))
    state.machine = ending
  cases ending <;> rfl

theorem machine_run {program : Node}
    (read : (Grammar.readProgram state.switches document.text).1 = .ok program) :
    (state.run fuel document).2.machine =
      finalMachine ((state.moment fuel document program).ending state.settings) := by
  unfold State.run
  generalize Grammar.readProgram state.switches document.text = result at read
  obtain ⟨reading, switches⟩ := result
  cases read
  exact machine_evaluate { state with switches := switches } fuel document program

theorem RunsPlainly.tame (plain : state.RunsPlainly fuel document)
    (clean : state.machine.heap.Tame) {program : Node}
    (read : (Grammar.readProgram state.switches document.text).1 = .ok program) :
    (state.moment fuel document program).Tame state.settings :=
  ⟨Grammar.readProgram_avoids plain.lacks read, clean, plain.imports program read⟩

/-- A run keeps all lists, and leaves a heap from which the next run does. -/
theorem RunsPlainly.keeps (plain : state.RunsPlainly fuel document)
    (clean : state.machine.heap.Tame) :
    (state.run fuel document).2.machine.heap.Tame ∧
      state.machine.heap.ListsKept (state.run fuel document).2.machine.heap := by
  cases read : (Grammar.readProgram state.switches document.text).1 with
  | error error =>
      have same : (state.run fuel document).2.machine = state.machine := by
        unfold State.run
        generalize Grammar.readProgram state.switches document.text = result at read
        obtain ⟨reading, switches⟩ := result
        cases read
        rfl
      rw [same]
      exact ⟨clean, .refl _⟩
  | ok program =>
      have lasting := (plain.tame clean read).lasting
      rw [machine_run read]
      exact ⟨lasting.tame, lasting.kept⟩

theorem runFile_keeps {path : String}
    (plain : ∀ text, state.machine.files.readText path = .ok text →
      state.RunsPlainly fuel ⟨path, text⟩) (clean : state.machine.heap.Tame) :
    (state.runFile fuel path).2.machine.heap.Tame ∧
      state.machine.heap.ListsKept (state.runFile fuel path).2.machine.heap := by
  unfold State.runFile
  cases read : state.machine.files.readText path with
  | error error => exact ⟨clean, .refl _⟩
  | ok text => exact (plain text read).keeps clean

end State

/-- From a tame heap on a session keeps all lists. -/
theorem PlainSession.keeps {first state : State} (session : PlainSession first state)
    (clean : first.machine.heap.Tame) :
    state.machine.heap.Tame ∧ first.machine.heap.ListsKept state.machine.heap := by
  induction session with
  | start => exact ⟨clean, .refl _⟩
  | run before plain ih =>
      obtain ⟨after, kept⟩ := plain.keeps ih.1
      exact ⟨after, ih.2.trans kept⟩
  | runFile before plain ih =>
      obtain ⟨after, kept⟩ := State.runFile_keeps plain ih.1
      exact ⟨after, ih.2.trans kept⟩
  | outside before console files ih => exact ih

/--
In a session without the names of the functions that change lists, every list has the elements
that it was made with: in all later states of the session, and during a run from wherever a task
begins or ends to the end of the run.  Operators, compound assignments, the function that makes
lists and loops on one line give lists that were not there before.
-/
theorem lists_outlast_sessions {settings : Settings} {console : Console} {files : Tree}
    {state : State} (session : PlainSession (start settings console files) state) :
    (∀ later, PlainSession state later → state.machine.heap.ListsKept later.machine.heap) ∧
    (∀ fuel document program, state.RunsPlainly fuel document →
      (Grammar.readProgram state.switches document.text).1 = .ok program →
      ∀ inner, (state.moment fuel document program).Reaches state.settings inner →
        state.machine.heap.ListsKept inner.machine.heap ∧
        inner.machine.heap.ListsKept (finalMachine (inner.ending state.settings)).heap ∧
        (finalMachine (inner.ending state.settings)).heap.ListsKept
          (state.run fuel document).2.machine.heap) ∧
    (∀ frame span op left right, GivesNewLists (applyBinary frame span op left right)) ∧
    (∀ frame span name op value,
      GivesNewLists (assignName frame span name (.compound op) value)) ∧
    (∀ frame span owner name op value,
      GivesNewLists (assignAttribute frame span owner name (.compound op) value)) ∧
    (∀ settings id arguments site machine made final,
      (machine.heap.builtin id).operation = .toList →
      callBuiltin settings id arguments site machine = .ok (.list made) final →
      machine.heap.lists.size ≤ made.index ∧ made.index < final.heap.lists.size) ∧
    (∀ self fuel frame label header body machine value final,
      evalLoop self fuel frame label header body false machine = .ok value final →
      ∃ values between made,
        runLoop self fuel frame header (runPass self frame label body) machine =
          .ok values between ∧
        value = .list made ∧ between.heap.lists.size ≤ made.index ∧
          made.index < final.heap.lists.size) := by
  have clean := (session.keeps startHeap_tame).1
  refine ⟨fun later after => (after.keeps clean).2, ?_,
    fun _ _ op left right => .applyBinary op left right,
    fun _ _ name op value => .assignName name op value,
    fun _ _ owner name op value => .assignAttribute owner name op value,
    fun settings id arguments site machine _ _ makes ended =>
      GivesNewLists.callBuiltin settings id arguments site machine makes ended,
    fun _ _ _ _ _ _ _ _ _ ended => evalLoop_gives_new ended⟩
  intro fuel document program plain read inner reaches
  obtain ⟨tame, around⟩ := (plain.tame clean read).reached reaches
  rw [State.machine_run read]
  exact ⟨around.before, tame.lasting.kept, around.behind⟩

/-! ## A list under two names -/

namespace Shared

/-- A list is shared, and whatever is made of it is made apart from it. -/
def document : Document where
  name := "main.ql"
  text :=
    "var a = [1, 2]\nvar b = a\nvar b += 3\nimport kit\nvar c = for x in list(a) then x + kit.five"

/-- A module that is imported. -/
def files : Tree where
  files := [(⟨["kit.ql"]⟩, "export 5 as five".toUTF8)]

def first : State := start {} {} files

/-- The program, as it is read from the text. -/
def program : Node :=
  match (Grammar.readProgram {} document.text).1 with
  | .ok program => program
  | .error _ => ⟨⟨.start, .start⟩, .block []⟩

theorem reads : (Grammar.readProgram first.switches document.text).1 = .ok program := by
  have accepted : ((Grammar.readProgram {} document.text).1).isOk = true := by decide +kernel
  change (Grammar.readProgram {} document.text).1 = _
  unfold program
  cases read : (Grammar.readProgram {} document.text).1 with
  | ok program => rfl
  | error error =>
      rw [read] at accepted
      cases accepted

theorem runs_plainly : first.RunsPlainly 9 document := by
  have lacks : Lexical.lacks changerNames {} document.text = true := by decide +kernel
  refine ⟨lacks, fun other read => ?_⟩
  obtain rfl : program = other := Except.ok.inj (reads.symm.trans read)
  have question : (first.moment 9 document program).task.Tame :=
    Grammar.readProgram_avoids lacks read
  exact Moment.importsPlain_of_screened question startHeap_tame 0 (by decide +kernel)

/--
The list that was shared stays as it was made when one of its names is given another list.  So
do the lists that come up in between, and all of them whatever the session goes on with.
-/
theorem shared_list_stays :
    (first.run 9 document).2.machine.heap.lists =
      #[[.int 1, .int 2], [.int 1, .int 2, .int 3], [.int 1, .int 2], [.int 6, .int 7]] ∧
    (∀ inner, (first.moment 9 document program).Reaches first.settings inner →
      inner.machine.heap.ListsKept (finalMachine (inner.ending first.settings)).heap ∧
      (finalMachine (inner.ending first.settings)).heap.ListsKept
        (first.run 9 document).2.machine.heap) ∧
    ∀ later, PlainSession (first.run 9 document).2 later →
      (first.run 9 document).2.machine.heap.ListsKept later.machine.heap := by
  have begun : PlainSession first first := .start
  have run := (lists_outlast_sessions begun).2.1 9 document program runs_plainly reads
  have after := (lists_outlast_sessions (.run begun runs_plainly)).1
  exact ⟨by decide +kernel, fun inner reaches => (run inner reaches).2, after⟩

end Shared

end Session
end Scripting
