import Mathlib
import Scripting.Proofs.HaltingForms
import Scripting.Proofs.Histories

namespace Scripting
namespace Evaluation

/-!
Programs without open-ended loops come to an end.

There is no measure on programs that tells how far a run has still to go, since the functions
that it calls are found on the heap.  But each function and each module takes a level of the
stack, so that the room that is left gets smaller; at one level, the initializer of a class is a
function or an earlier class; and what is left is a part of the program at hand.

The functions on the heap have to be without open-ended loops, too.  A session in which an
earlier program has defined one with such a loop need not come to an end.  What can still come
between is a list that is repeated more often than there is memory for.
-/

open Data (AllBelow Bindings Value)
open Grammar (formParts)
open Program (Form Node)
open Source (Document Span)

variable {settings : Settings} {code : Int32} {depth count : Nat} {frame : Frame} {span : Span}

/-! ## Watched tasks -/

theorem performWatched_call (fuel : Nat) (callee : Value) (arguments : List (Option Value))
    (site : CallSite) :
    performWatched settings code (fuel + 1) (.call callee arguments site) =
      callValue (performWatched settings code fuel) settings callee arguments site :=
  rfl

theorem Masters.importModule (deeper : depth < settings.maxDepth →
      ∀ node : Node, node.Bounded → Masters (performWatched settings code) (depth + 1) node)
    (name : String) (rename : Option String) :
    Masters (performWatched settings code) depth ⟨span, .importModule name rename⟩ := by
  intro count frame machine sound
  by_cases allowed :
      (importedProgram? settings machine.files name).all Node.isBounded = true
  · have imported : HaltsAt machine depth count Value.Below fun fuel =>
        evalImport (performWatched settings code fuel) settings frame span name rename :=
      .evalImport sound deeper allowed rename
    refine imported.later fun fuel => ?_
    simp only [Evaluator.eval, performWatched, Task.isAllowed, allowed, if_true]
    rfl
  · refine ⟨.error (.signal (.exited code)) machine, 1, .signal sound trivial, fun fuel more => ?_⟩
    obtain ⟨less, rfl⟩ : ∃ less, fuel = less + 1 := ⟨fuel - 1, by omega⟩
    simp only [Evaluator.eval, performWatched, Task.isAllowed, allowed]
    rfl

/-- Either the loop moves on, or it is not allowed. -/
theorem Masters.counted (label : Option String) (counter : String) {first last body : Node}
    {step : Option Node} (block : Bool)
    (one : Masters (performWatched settings code) depth first)
    (two : Masters (performWatched settings code) depth last)
    (three : ∀ node ∈ step, Masters (performWatched settings code) depth node)
    (part : Masters (performWatched settings code) depth body) :
    Masters (performWatched settings code) depth
      ⟨span, .loop label (.counted counter first last step) body block⟩ := by
  intro count frame machine sound
  have steady : Halts depth count Value.Below fun fuel =>
      (Halts.runSteady (performWatched settings code fuel) fuel frame counter first last step
        (runPass (performWatched settings code fuel) frame label body) >>= fun values =>
          if block then Pure.pure .nothing else newList values) :=
    (Halts.runSteady_halts label counter one two three part).bind fun _ _ _ held =>
      .ite (fun _ => .pure fun _ _ => trivial) fun _ => .newList held
  obtain ⟨stride, enough, -, stays⟩ : HaltsAt machine depth count noMatter fun fuel =>
      evalStride (performWatched settings code fuel) frame first last step :=
    Halts.evalStride one two three machine sound
  have unfolds : ∀ fuel, enough ≤ fuel →
      (performWatched settings code (fuel + 1)).eval
          ⟨span, .loop label (.counted counter first last step) body block⟩ frame machine =
        if !isStill stride then
          evalLoop (performWatched settings code fuel) fuel frame label
            (.counted counter first last step) body block machine
        else .error (.signal (.exited code)) machine := by
    intro fuel more
    simp only [Evaluator.eval, performWatched, Task.isAllowed, stays fuel more]
    rfl
  cases still : isStill stride with
  | true =>
      refine ⟨.error (.signal (.exited code)) machine, enough + 1, .signal sound trivial,
        fun fuel more => ?_⟩
      obtain ⟨less, rfl⟩ : ∃ less, fuel = less + 1 := ⟨fuel - 1, by omega⟩
      refine (unfolds less (by omega)).trans ?_
      rw [still]
      rfl
  | false =>
      have moves : HaltsAt machine depth count Value.Below fun fuel =>
          (performWatched settings code (fuel + 1)).eval
            ⟨span, .loop label (.counted counter first last step) body block⟩ frame := by
        refine (steady machine sound).congr enough fun fuel more => ?_
        have moving : isStill (evalStride (performWatched settings code fuel) frame first last step
            machine) = false :=
          (congrArg isStill (stays fuel more)).trans still
        refine (unfolds fuel more).trans ?_
        rw [still]
        change evalLoop _ _ _ _ _ _ _ _ = _
        unfold evalLoop
        rw [bind_apply, bind_apply, Halts.runLoop_of_moving moving]
      exact moves.later fun _ => rfl

/-! ## Nodes -/

/-- What a watched run looks at before it goes on. -/
def isWatched : Form Node → Bool
  | .importModule .. | .loop _ (.counted ..) _ _ => true
  | _ => false

theorem isAllowed_of_unwatched {form : Form Node} (unwatched : isWatched form = false)
    (self : Evaluator) (machine : Machine) :
    (Task.evaluate ⟨span, form⟩ frame).isAllowed settings self machine = true := by
  unfold isWatched at unwatched
  split at unwatched
  · cases unwatched
  · cases unwatched
  · rename_i notImport notCounted
    unfold Task.isAllowed
    split
    · rename_i same
      cases same
      exact absurd rfl (notImport _ _)
    · rename_i same
      cases same
      exact absurd rfl (notCounted _ _ _ _ _ _ _)
    · rfl

/-- All other forms halt if their parts do and calls are answered. -/
theorem evalNode_halts {self : Nat → Evaluator} (answers : Answers settings self depth)
    {form : Form Node} (unwatched : isWatched form = false) (closed : form.isOpenEnded = false)
    (bounded : ∀ part ∈ formParts form, part.Bounded)
    (parts : ∀ part ∈ formParts form, Masters self depth part) :
    Halts depth count Value.Below fun fuel =>
      evalNode settings fuel (self fuel) ⟨span, form⟩ frame := by
  have held {option : Option Node} (all : ∀ part ∈ option.toList, Masters self depth part) :
      ∀ node ∈ option, Masters self depth node := fun node given =>
    all node (Option.mem_toList.mpr given)
  cases form with
  | number value =>
      refine .pure fun _ _ => ?_
      cases value <;> exact trivial
  | text value => exact .pure fun _ _ => trivial
  | placeholder => exact .pure fun _ _ => trivial
  | list elements => exact .evalList parts
  | name name => exact .lookUp name
  | inspect name => exact .evalInspect name
  | delete name => exact .evalDelete name
  | assign targets op values =>
      obtain ⟨owners, given⟩ := List.forall_mem_append.mp parts
      refine .evalAssign op (fun target listed node here => ?_) given
      exact owners node (List.mem_flatMap.mpr ⟨target, listed, Option.mem_toList.mpr here⟩)
  | binary op left right =>
      obtain ⟨first, rest⟩ := List.forall_mem_cons.mp parts
      exact .evalBinary op first (rest right List.mem_cons_self)
  | comparison first links =>
      obtain ⟨first, rest⟩ := List.forall_mem_cons.mp parts
      exact .evalComparison first fun link listed => rest link.2 (List.mem_map_of_mem listed)
  | unary op operand => exact .evalUnary op (parts operand List.mem_cons_self)
  | fallback operands => exact .evalFallback parts
  | conditional cases otherwise block =>
      obtain ⟨chosen, last⟩ := List.forall_mem_append.mp parts
      refine .evalConditional block (fun case listed => ?_) (held last)
      have inside : ∀ node ∈ [case.1, case.2], Masters self depth node := fun node here =>
        chosen node (List.mem_flatMap.mpr ⟨case, listed, here⟩)
      exact ⟨inside _ List.mem_cons_self, inside _ (List.mem_cons_of_mem _ List.mem_cons_self)⟩
  | loop label header body block =>
      obtain ⟨inside, bounds⟩ := List.forall_mem_cons.mp parts
      cases header with
      | each name items => exact .evalEach label name block (bounds items List.mem_cons_self) inside
      | counted counter first last step => cases unwatched
      | whileTrue condition => cases closed
      | doWhile condition => cases closed
      | endless => cases closed
  | function name required optional body arrow =>
      obtain ⟨inside, defaults⟩ := List.forall_mem_cons.mp bounded
      exact .evalFunction name required arrow inside fun parameter listed =>
        defaults parameter.2 (List.mem_map_of_mem listed)
  | classDef name parent body =>
      obtain ⟨inside, rest⟩ := List.forall_mem_cons.mp parts
      exact .evalClass name (held rest) inside
  | call callee arguments =>
      obtain ⟨first, rest⟩ := List.forall_mem_cons.mp parts
      exact .evalCall answers first rest
  | «attribute» base steps =>
      obtain ⟨first, rest⟩ := List.forall_mem_cons.mp parts
      exact .evalAttribute first rest
  | returnFrom value => exact .evalReturn (held parts)
  | breakLoop label => exact .throwSignal trivial
  | continueLoop label => exact .throwSignal trivial
  | importModule name rename => cases unwatched
  | exportAs value name => exact .evalExport (parts value List.mem_cons_self) name
  | write text overwrite target line =>
      obtain ⟨first, rest⟩ := List.forall_mem_cons.mp parts
      obtain ⟨second, last⟩ := List.forall_mem_cons.mp rest
      exact .evalWrite overwrite first second (held last)
  | read target bind line =>
      obtain ⟨first, rest⟩ := List.forall_mem_cons.mp parts
      exact .evalRead bind first (held rest)
  | assertion condition message =>
      obtain ⟨first, rest⟩ := List.forall_mem_cons.mp parts
      exact .evalAssertion first (held rest)
  | block statements => exact .evalSequence parts trivial

/-- A node halts if its parts do, and all that is bounded does one level deeper. -/
theorem Masters.node (deeper : depth < settings.maxDepth →
      ∀ node : Node, node.Bounded → Masters (performWatched settings code) (depth + 1) node)
    {form : Form Node} (closed : form.isOpenEnded = false)
    (bounded : ∀ part ∈ formParts form, part.Bounded)
    (parts : ∀ part ∈ formParts form, Masters (performWatched settings code) depth part) :
    Masters (performWatched settings code) depth ⟨span, form⟩ := by
  have answers : Answers settings (performWatched settings code) depth :=
    Halts.callValue deeper performWatched_call
  cases watched : isWatched form with
  | false =>
      intro count frame machine sound
      have halts : HaltsAt machine depth count Value.Below fun fuel =>
          evalNode settings fuel (performWatched settings code fuel) ⟨span, form⟩ frame :=
        evalNode_halts answers watched closed bounded parts machine sound
      refine halts.later fun fuel => ?_
      simp only [Evaluator.eval, performWatched, isAllowed_of_unwatched watched, if_true]
      rfl
  | true =>
      unfold isWatched at watched
      split at watched
      · exact .importModule deeper _ _
      · obtain ⟨inside, bounds⟩ := List.forall_mem_cons.mp parts
        obtain ⟨one, others⟩ := List.forall_mem_cons.mp bounds
        obtain ⟨two, three⟩ := List.forall_mem_cons.mp others
        exact .counted _ _ _ one two (fun node given => three node (Option.mem_toList.mpr given))
          inside
      · cases watched

/-- At every level, by the room that is left below the limit. -/
theorem watched_masters (node : Node) (bounded : node.Bounded) :
    Masters (performWatched settings code) depth node := by
  induction room : settings.maxDepth - depth generalizing depth node with
  | zero =>
      induction bounded with
      | node closed bounded ih =>
          exact .node (fun below => absurd room (by omega)) closed bounded ih
  | succ room deeper =>
      induction bounded with
      | node closed bounded ih =>
          exact .node (fun below node bounded => deeper node bounded (by omega)) closed bounded ih

/-! ## Runs -/

/-- An evaluation has come to a value, an error or a signal. -/
def isOver {α : Type} : Ending α → Bool
  | .ok _ _ | .error (.error _) _ | .error (.signal _) _ => true
  | .error (.crashed _) _ | .error .outOfFuel _ => false

/-- There is no memory for one of the lists on the heap as often as it is to be repeated. -/
def Overgrows {α : Type} (ending : Ending α) : Prop :=
  ∃ overgrowth after, ending = .error (.crashed (.overgrown overgrowth)) after ∧
    overgrowth.Arises after.heap

/-- Watched runs come to an end. -/
theorem watched_ends (settings : Settings) (code : Int32) {node : Node} (bounded : node.Bounded)
    (frame : Frame) {machine : Machine} (founded : machine.heap.Founded) :
    ∃ ending enough, (isOver ending = true ∨ Overgrows ending) ∧
      (finalMachine ending).heap.Founded ∧ ∀ fuel, enough ≤ fuel →
        performWatched settings code fuel (.evaluate node frame) machine = ending := by
  have sound : machine.Sound machine.depth machine.heap.classes.size :=
    ⟨founded, rfl, Nat.le_refl _⟩
  have masters : Masters (performWatched settings code) machine.depth node :=
    watched_masters node bounded
  obtain ⟨ending, enough, ended, stays⟩ := masters _ frame machine sound
  refine ⟨ending, enough, ?_, ?_, stays⟩
  · cases ended with
    | overgrown sound arises => exact .inr ⟨_, _, rfl, arises⟩
    | _ => exact .inl rfl
  · cases ended with
    | value sound _ => exact sound.founded
    | error sound => exact sound.founded
    | signal sound _ => exact sound.founded
    | overgrown sound _ => exact sound.founded

end Evaluation

namespace Session

open Evaluation
open Program (Node)
open Source (Document)

theorem startHeap_founded : startHeap.Founded := by
  have empty : Data.Heap.Founded {} :=
    ⟨⟨nofun, nofun, nofun, nofun, nofun, nofun⟩, nofun, nofun, nofun⟩
  have constants : ∀ entry ∈ Data.preludeConstants, entry.2.Below 0 := by
    simp [Data.preludeConstants, Data.Value.Below]
  obtain ⟨installed, classes, bound⟩ := Data.Heap.founded_installAll empty
    (Data.Bindings.below_empty.insertAll constants)
    fun _ => List.mem_append_left Data.mathFunctions
  have prelude := Data.Heap.founded_newScope installed (bound.mono (Nat.zero_le _)) []
  have globals := Data.Heap.founded_newScope prelude Data.Bindings.below_empty []
  exact Data.Heap.founded_newExports globals

/-- Sessions in which only such programs run, each to its end. -/
inductive BoundedSession (first : State) : State → Prop
  | start : BoundedSession first first
  | evaluate {state : State} (before : BoundedSession first state) {document : Document}
      {program : Node} (bounded : program.Bounded)
      (unstopped : Unstopped state.settings (.evaluate program (programFrame document))
        state.machine) {fuel : Nat}
      (enough : ∀ more, fuel ≤ more →
        perform state.settings more (.evaluate program (programFrame document)) state.machine =
          perform state.settings fuel (.evaluate program (programFrame document)) state.machine) :
      BoundedSession first (state.evaluate fuel document program).2
  | outside {state : State} (before : BoundedSession first state) (console : Console)
      (files : Files.Tree) :
      BoundedSession first
        { state with machine := { state.machine with console := console, files := files } }

/-- All states of such a session are founded. -/
theorem BoundedSession.founded {settings : Settings} {console : Console} {files : Files.Tree}
    {state : State} (session : BoundedSession (Session.start settings console files) state) :
    state.machine.heap.Founded := by
  induction session with
  | start => exact startHeap_founded
  | outside before console files ih => exact ih
  | @evaluate state before document program bounded unstopped fuel enough ih =>
      obtain ⟨ending, least, -, founded, stays⟩ :=
        watched_ends state.settings 0 bounded (programFrame document) ih
      have last := (enough (max fuel least) (by omega)).symm.trans
        ((unstopped 0 _).symm.trans (stays _ (by omega)))
      simp only [State.evaluate, last]
      cases ending <;> exact founded

/-! ## A program that calls itself in many ways -/

namespace Entangled

open Data (Fault)
open Source (Span)

def whole : Span := ⟨.start, .start⟩

def call (name : String) : Node := ⟨whole, .call ⟨whole, .name name⟩ []⟩

/-- A function that does nothing but call another one. -/
def passOn (name other : String) : Node := ⟨whole, .function (some name) [] [] (call other) true⟩

/-- A class with an initializer, which is a class as well. -/
def classDef (name initializer : String) : Node :=
  ⟨whole, .classDef name none
    ⟨whole, .assign [⟨none, "__init__", whole⟩] .set [⟨whole, .name initializer⟩]⟩⟩

def twice (body : Node) : Node :=
  ⟨whole, .loop none
    (.counted "i" ⟨whole, .number (.int 1)⟩ ⟨whole, .number (.int 2)⟩ none) body true⟩

def program : Node :=
  ⟨whole, .block
    [⟨whole, .classDef "Inner" none ⟨whole, .block []⟩⟩, classDef "Outer" "Inner",
      passOn "ping" "pong", passOn "pong" "ping", twice (call "Outer"), call "ping"]⟩

def settings : Settings := { maxDepth := 2 }

def frame : Frame := programFrame ⟨"main.ql", ""⟩

def machine : Machine := (start settings {} {}).machine

def fault? : Ending Data.Value → Option Fault
  | .error (.error error) _ => some error.fault
  | _ => none

theorem unstopped : Unstopped settings (.evaluate program frame) machine := by
  intro code fuel
  match fuel with
  | 0 | 1 | 2 | 3 | 4 | 5 | 6 | 7 | 8 => cbv
  | more + 9 => cbv

end Entangled

/--
In a session a text is a program without open-ended loops, all of whose counted loops move on
and whose modules have none either.
-/
structure State.Takes (state : State) (document : Document) (program : Node) : Prop where
  read : Grammar.readProgram state.switches document.text = (.ok program, state.switches)
  bounded : program.Bounded
  unstopped : Unstopped state.settings (.evaluate program (programFrame document)) state.machine

/-- A loop whose passes are all cut short never comes to an end. -/
theorem endless_skipping {pass : Action Pass} {machine : Machine}
    (skips : pass machine = .ok .skipped machine) (fuel : Nat) (collected : List Data.Value) :
    takeTurns (endlessTurn pass) fuel () collected machine = .error .outOfFuel machine := by
  induction fuel with
  | zero => rfl
  | succ fuel ih =>
      have turned : endlessTurn pass () machine = .ok (.made .skipped (some ())) machine := by
        unfold endlessTurn
        rw [bind_apply, skips]
        rfl
      rw [takeTurns, bind_apply, turned]
      exact ih

namespace Looping

open Lexical (Token)
open Source (Span)

/-- A stretch of a text of one line. -/
def between (start stop : Nat) : Span := ⟨⟨start, 0, start⟩, ⟨stop, 0, stop⟩⟩

def firstLine : Document := ⟨"main.ql", "def f() -> loop continue"⟩

def firstTokens : List Token :=
  [⟨.keyword .defWord, between 0 3⟩, ⟨.identifier "f", between 4 5⟩,
    ⟨.opening .round, between 5 6⟩, ⟨.closing .round, between 6 7⟩, ⟨.symbol .arrow, between 8 10⟩,
    ⟨.keyword .loopWord, between 11 15⟩, ⟨.keyword .continueWord, between 16 24⟩,
    ⟨.endOfFile, between 24 24⟩]

/-- The body of the loop. -/
def next : Node := ⟨between 16 24, .continueLoop none⟩

def definition : Node :=
  ⟨between 0 24, .block [⟨between 0 24, .function (some "f") [] []
    ⟨between 11 24, .loop none .endless next false⟩ true⟩]⟩

def secondLine : Document := ⟨"main.ql", "f()"⟩

def secondTokens : List Token :=
  [⟨.identifier "f", between 0 1⟩, ⟨.opening .round, between 1 2⟩, ⟨.closing .round, between 2 3⟩,
    ⟨.endOfFile, between 3 3⟩]

def call : Node :=
  ⟨between 0 3, .block [⟨between 0 3, .call ⟨between 0 1, .name "f"⟩ []⟩]⟩

/-- The session after the first line. -/
def state : State := ((start {} {} {}).evaluate 2 firstLine definition).2

/-- The machine while the function runs. -/
def inside : Machine :=
  { state.machine with heap := (state.machine.heap.newTable .empty).2, depth := 1 }

/-- The frame that the function runs in. -/
def bodyFrame : Frame where
  trail := .entered "f" (.root programName) secondLine .start
  scope := ⟨⟨2⟩, [globalTable, preludeTable]⟩
  exports := none
  document := firstLine

theorem readProgram_of_tokens {text : String} {tokens : List Token} {program : Node}
    (lexed : Lexical.tokenize {} text = .ok (tokens, {}))
    (parsed : Grammar.parse tokens = .ok program) :
    Grammar.readProgram {} text = (.ok program, {}) := by
  unfold Grammar.readProgram
  simp only [lexed, parsed]

theorem first_read : Grammar.readProgram {} firstLine.text = (.ok definition, {}) :=
  readProgram_of_tokens (by decide +kernel : Lexical.tokenize {} _ = .ok (firstTokens, {})) rfl

theorem second_read : Grammar.readProgram {} secondLine.text = (.ok call, {}) :=
  readProgram_of_tokens (by decide +kernel : Lexical.tokenize {} _ = .ok (secondTokens, {})) rfl

theorem first_run :
    (start {} {} {}).run 2 firstLine = (.finished (.function ⟨0⟩), state) := by
  unfold State.run
  rw [show (start {} {} {}).switches = {} from rfl, first_read]
  cbv

theorem body_runs_on (fuel : Nat) :
    takeTurns (endlessTurn (runPass (perform state.settings (fuel + 1)) bodyFrame none next)) fuel
      () [] inside = .error .outOfFuel inside :=
  endless_skipping rfl fuel []

theorem call_runs_on (fuel : Nat) : ∃ last,
    perform state.settings fuel (.evaluate call (programFrame secondLine)) state.machine =
      .error .outOfFuel last ∧ last.heap.lists = #[] := by
  match fuel with
  | 0 | 1 | 2 => exact ⟨state.machine, by cbv, by cbv⟩
  | 3 => exact ⟨{ inside with depth := 0 }, by cbv, by cbv⟩
  | more + 4 =>
      have body := body_runs_on more
      refine ⟨{ inside with depth := 0 }, ?_, by cbv⟩
      cbv at body ⊢
      simp only [body]

/-- No module is imported and no counted loop is met. -/
theorem call_unstopped :
    Unstopped state.settings (.evaluate call (programFrame secondLine)) state.machine := by
  intro code fuel
  match fuel with
  | 0 | 1 | 2 | 3 => cbv
  | more + 4 => cbv

theorem call_taken : state.Takes secondLine call :=
  ⟨second_read, Program.Node.bounded_of_isBounded (by cbv), call_unstopped⟩

end Looping

namespace Repeating

open Lexical (Token)
open Looping (between readProgram_of_tokens)

def line : Document := ⟨"main.ql", "[1] * 576460752303423488"⟩

def tokens : List Token :=
  [⟨.opening .square, between 0 1⟩, ⟨.int 1, between 1 2⟩, ⟨.closing .square, between 2 3⟩,
    ⟨.symbol .star, between 4 5⟩, ⟨.int 576460752303423488, between 6 24⟩,
    ⟨.endOfFile, between 24 24⟩]

def program : Node :=
  ⟨between 0 24, .block [⟨between 0 24, .binary .mul
    ⟨between 0 3, .list [⟨between 1 2, .number (.int 1)⟩]⟩
    ⟨between 6 24, .number (.int 576460752303423488)⟩⟩]⟩

/-- The list has fewer elements than the largest integer, but each takes more than one byte. -/
def overgrowth : Data.Overgrowth := ⟨1, 576460752303423488, by decide⟩

def state : State := start {} {} {}

/-- The machine when the list is there. -/
def filled : Machine :=
  { state.machine with heap := (state.machine.heap.newList [.int 1]).2 }

theorem program_read : Grammar.readProgram {} line.text = (.ok program, {}) :=
  readProgram_of_tokens (by decide +kernel : Lexical.tokenize {} _ = .ok (tokens, {})) rfl

theorem program_unstopped :
    Unstopped state.settings (.evaluate program (programFrame line)) state.machine := by
  intro code fuel
  match fuel with
  | 0 | 1 | 2 | 3 => cbv
  | more + 4 => cbv

theorem program_taken : state.Takes line program :=
  ⟨program_read, Program.Node.bounded_of_isBounded (by cbv), program_unstopped⟩

theorem program_crashes (fuel : Nat) :
    perform state.settings (fuel + 4) (.evaluate program (programFrame line)) state.machine =
      .error (.crashed (.overgrown overgrowth)) filled := by
  cbv

end Repeating

end Session
end Scripting
