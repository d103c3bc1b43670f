import Scripting.Proofs.SignalPaths

namespace Scripting
namespace Evaluation

/-!
Every form of a program is followed.

One lemma a form: given that its parts are well scoped in their enclosures, the form is
followed in its own.  Only the body of a loop stands in another enclosure than the loop, and
only loops and calls take signals.  Together they say how a task is performed in terms of
others.
-/

open Data (Fault Function Value)
open Program (AssignOp BinaryOp CompareOp Enclosure LoopHeader Node Target)
open Source (Document Span)

variable {watch : Watch} {around : Enclosure} {frame : Frame}

-- Most lemmas rewrite with one of these, which are derived here once.
attribute [local simp] Program.allWellScoped Program.linksWellScoped Program.targetsWellScoped
  Program.casesWellScoped Program.defaultsWellScoped

namespace Follows

/-! ## Names, operators and assignments -/

theorem evalAll {nodes : List Node} (inside : Program.allWellScoped around nodes = true) :
    Follows watch around (fun self => evalAll self frame nodes) anything := by
  induction nodes with
  | nil => exact pure trivial
  | cons node rest ih =>
      simp only [Program.allWellScoped, Bool.and_eq_true] at inside
      exact (evaluate inside.1 frame).andThen fun _ => (ih inside.2).andThen fun _ => pure trivial

theorem evalList {elements : List Node} (inside : Program.allWellScoped around elements = true) :
    Follows watch around (fun self => evalList self frame elements) anything :=
  (evalAll inside).andThen fun values => steady (.newList values)

theorem evalSequence {nodes : List Node} (inside : Program.allWellScoped around nodes = true)
    (last : Value) :
    Follows watch around (fun self => evalSequence self frame last nodes) anything := by
  induction nodes generalizing last with
  | nil => exact pure trivial
  | cons node rest ih =>
      simp only [Program.allWellScoped, Bool.and_eq_true] at inside
      exact (evaluate inside.1 frame).andThen fun value => ih inside.2 value

theorem evalStep {step : Node} (inside : step.wellScoped around = true) (current : Value) :
    Follows watch around (fun self => evalStep self frame current step) anything := by
  have within : ∀ attributes, Follows watch around
      (fun self => Evaluation.evalStep.evalInside self frame step attributes) anything :=
    fun attributes => (steady (.openScope attributes frame.scope)).andThen fun _ =>
      evaluate inside _
  refine look.andThen fun attributes => ?_
  cases step.headName? with
  | some name => exact ite (within attributes) (steady (.raiseTyped fun _ => rfl))
  | none => exact within attributes

theorem evalSteps {steps : List Node} (inside : Program.allWellScoped around steps = true)
    (current : Value) :
    Follows watch around (fun self => evalSteps self frame current steps) anything := by
  induction steps generalizing current with
  | nil => exact pure trivial
  | cons step rest ih =>
      simp only [Program.allWellScoped, Bool.and_eq_true] at inside
      exact (evalStep inside.1 current).andThen fun next => ih inside.2 next

theorem evalBinary {left right : Node} (first : left.wellScoped around = true)
    (second : right.wellScoped around = true) (span : Span) (op : BinaryOp) :
    Follows watch around (fun self => evalBinary self frame span op left right) anything := by
  refine (evaluate first frame).andThen fun left => look.andThen fun decided => ?_
  refine ite (pure trivial) (ite (pure trivial) ?_)
  exact (evaluate second frame).andThen fun right => steady (.applyBinary op left right)

theorem evalUnary {operand : Node} (inside : operand.wellScoped around = true) (span : Span)
    (op : Program.UnaryOp) :
    Follows watch around (fun self => evalUnary self frame span op operand) anything :=
  (evaluate inside frame).andThen fun value => steady (.check fun heap => .unary heap op value)

theorem evalLinks {links : List (CompareOp × Node)}
    (inside : Program.linksWellScoped around links = true) (span : Span) (left : Value) :
    Follows watch around (fun self => evalLinks self frame span left links) anything := by
  induction links generalizing left with
  | nil => exact pure trivial
  | cons link rest ih =>
      rcases link with ⟨op, node⟩
      simp only [Program.linksWellScoped, Bool.and_eq_true] at inside
      refine (evaluate inside.1 frame).andThen fun right => ?_
      refine (steady (.check fun heap => .compare heap op left right)).andThen fun holds => ?_
      exact ite (ih inside.2 right) (pure trivial)

theorem evalFallback {operands : List Node} (inside : Program.allWellScoped around operands = true) :
    Follows watch around (fun self => evalFallback self frame operands) anything := by
  induction operands with
  | nil => exact pure trivial
  | cons operand rest ih =>
      simp only [Program.allWellScoped, Bool.and_eq_true] at inside
      have first : Follows watch around (fun self => self.eval operand frame) anything :=
        evaluate inside.1 frame
      match rest with
      | [] => exact first
      | _ :: _ => exact first.andThen fun _ => ite (ih inside.2) (pure trivial)

theorem assignTarget {target : Target Node}
    (inside : Program.optionWellScoped around target.object = true) (op : AssignOp)
    (value : Value) :
    Follows watch around (fun self => assignTarget self frame op target value) anything := by
  unfold Evaluation.assignTarget
  cases object : target.object with
  | none => exact steady (.assignName target.name op value)
  | some node =>
      rw [object] at inside
      exact (evaluate inside frame).andThen fun owner =>
        steady (.assignAttribute owner target.name op value)

theorem assignAll {targets : List (Target Node)}
    (inside : Program.targetsWellScoped around targets = true) (op : AssignOp)
    (values : List Value) :
    Follows watch around (fun self => assignAll self frame op targets values) anything := by
  induction targets generalizing values with
  | nil => exact pure trivial
  | cons target rest ih =>
      rcases target with ⟨object, name, span⟩
      simp only [Program.targetsWellScoped, Bool.and_eq_true] at inside
      cases values with
      | nil => exact pure trivial
      | cons value values =>
          refine (assignTarget inside.1 op value).andThen fun _ => ?_
          exact (ih inside.2 values).andThen fun _ => pure trivial

theorem evalAssign {targets : List (Target Node)} {nodes : List Node}
    (assigned : Program.targetsWellScoped around targets = true)
    (given : Program.allWellScoped around nodes = true) (span : Span) (op : AssignOp) :
    Follows watch around (fun self => evalAssign self frame span targets op nodes) anything := by
  refine (evalAll given).andThen fun values => ite (steady (.raise rfl)) ?_
  refine (assignAll assigned op values).andThen fun results => ?_
  split
  · exact pure trivial
  · exact steady (.newList _)

/-! ## Branches and statements that leave the normal order -/

/-- The case that is chosen is one of those that are there. -/
theorem chooseCase {cases : List (Node × Node)} {otherwise : Option Node}
    (inside : Program.casesWellScoped around cases = true)
    (last : Program.optionWellScoped around otherwise = true) :
    Follows watch around (fun self => chooseCase self frame otherwise cases)
      fun chosen => Program.optionWellScoped around chosen = true := by
  induction cases with
  | nil => exact pure last
  | cons case rest ih =>
      rcases case with ⟨condition, body⟩
      simp only [Program.casesWellScoped, Bool.and_eq_true] at inside
      refine (evaluate inside.1.1 frame).andThen fun decided => look.andThen fun holds => ?_
      exact ite (pure inside.1.2) (ih inside.2)

theorem evalConditional {cases : List (Node × Node)} {otherwise : Option Node}
    (inside : Program.casesWellScoped around cases = true)
    (last : Program.optionWellScoped around otherwise = true) (block : Bool) :
    Follows watch around (fun self => evalConditional self frame cases otherwise block)
      anything := by
  refine (chooseCase inside last).bind fun chosen found => ?_
  cases chosen with
  | none => exact pure trivial
  | some body => exact (evaluate found frame).andThen fun _ => pure trivial

theorem evalAssertion {condition : Node} {message : Option Node}
    (inside : condition.wellScoped around = true)
    (said : Program.optionWellScoped around message = true) (span : Span) :
    Follows watch around (fun self => evalAssertion self frame span condition message)
      anything := by
  have text : Follows watch around (fun self => evalMessage self frame message) anything := by
    cases message with
    | none => exact pure trivial
    | some node => exact (evaluate said frame).andThen fun _ => look.andThen fun _ => pure trivial
  refine (evaluate inside frame).andThen fun decided => look.andThen fun holds => ?_
  exact ite (pure trivial) (text.andThen fun _ => steady (.raise rfl))

theorem evalReturn {value : Option Node} (inFunction : around.inFunction = true)
    (inside : Program.optionWellScoped around value = true) (span : Span) :
    Follows watch around (fun self => evalReturn self frame span value) anything := by
  have result : Follows watch around (fun self => evalOptional self frame value) anything := by
    cases value with
    | none => exact pure trivial
    | some node => exact evaluate inside frame
  exact result.andThen fun _ => steady fun _ clean => .interrupt clean inFunction

/-! ## Loops -/

/-- However many turns are taken, each of them is followed. -/
theorem takeTurns {σ : Type} {turn : Evaluator → σ → Action (Turn σ)}
    (each : ∀ state, Follows watch around (fun self => turn self state) anything) (fuel : Nat)
    (state : σ) (collected : List Value) :
    Follows watch around (fun self => takeTurns (turn self) fuel state collected) anything := by
  induction fuel generalizing state collected with
  | zero => exact steady .outOfFuel
  | succ fuel ih =>
      refine (each state).andThen fun taken => ?_
      rcases taken with _ | ⟨_ | _ | _, _ | next⟩
      · exact pure trivial
      · exact pure trivial
      · exact ih next _
      · exact pure trivial
      · exact ih next _
      · exact pure trivial
      · exact pure trivial

section Turns

variable {pass : Evaluator → Action Pass} (passes : Follows watch around pass anything)

include passes

theorem countedTurn (counter : String) (last step current : Int64) :
    Follows watch around (fun self => countedTurn frame counter last step (pass self) current)
      anything :=
  ite ((steady (.bindName counter _)).andThen fun _ => passes.andThen fun _ => pure trivial)
    (pure trivial)

theorem eachTurn (name : String) (items : List Value) :
    Follows watch around (fun self => eachTurn frame name (pass self) items) anything := by
  cases items with
  | nil => exact pure trivial
  | cons item rest =>
      exact (steady (.bindName name item)).andThen fun _ => passes.andThen fun _ => pure trivial

variable {condition : Evaluator → Action Bool} (tested : Follows watch around condition anything)

include tested

theorem whileTurn :
    Follows watch around (fun self => whileTurn (condition self) (pass self) ()) anything :=
  tested.andThen fun _ => ite (passes.andThen fun _ => pure trivial) (pure trivial)

theorem doWhileTurn :
    Follows watch around (fun self => doWhileTurn (condition self) (pass self) ()) anything := by
  refine passes.andThen fun taken => ?_
  split
  · exact pure trivial
  · exact tested.andThen fun _ => ite (pure trivial) (pure trivial)

omit tested in
theorem endlessTurn : Follows watch around (fun self => endlessTurn (pass self) ()) anything :=
  passes.andThen fun _ => pure trivial

end Turns

theorem evalBound {node : Node} (inside : node.wellScoped around = true) (bound : Data.LoopBound) :
    Follows watch around (fun self => evalBound self frame bound node) anything := by
  refine (evaluate inside frame).andThen fun value => ?_
  split
  · exact pure trivial
  · exact steady (.raiseTyped fun _ => rfl)

theorem evalStepBound {step : Option Node} (inside : Program.optionWellScoped around step = true) :
    Follows watch around (fun self => evalStepBound self frame step) anything := by
  cases step with
  | none => exact pure trivial
  | some node => exact evalBound inside .step

theorem evalCondition {condition : Node} (inside : condition.wellScoped around = true) :
    Follows watch around (fun self => evalCondition self frame condition) anything :=
  (evaluate inside frame).andThen fun _ => look

theorem runLoop {header : LoopHeader Node} {pass : Evaluator → Action Pass}
    (inside : Program.headerWellScoped around header = true)
    (passes : Follows watch around pass anything) (fuel : Nat) :
    Follows watch around (fun self => runLoop self fuel frame header (pass self)) anything := by
  cases header with
  | counted counter first last step =>
      simp only [Program.headerWellScoped, Bool.and_eq_true] at inside
      refine (evalBound inside.1.1 .start).andThen fun first => ?_
      refine (evalBound inside.1.2 .stop).andThen fun last => ?_
      refine (evalStepBound inside.2).andThen fun step => ?_
      exact takeTurns (fun current => countedTurn passes counter last step current) fuel _ _
  | each name node =>
      refine (evaluate inside frame).andThen fun value => ?_
      refine (steady (.check fun heap => .items heap value)).andThen fun items => ?_
      exact takeTurns (fun rest => eachTurn passes name rest) fuel _ _
  | whileTrue condition =>
      exact takeTurns (fun _ => whileTurn passes (evalCondition inside)) fuel _ _
  | doWhile condition =>
      exact takeTurns (fun _ => doWhileTurn passes (evalCondition inside)) fuel _ _
  | endless => exact takeTurns (fun _ => endlessTurn passes) fuel _ _

theorem evalLoop {header : LoopHeader Node} {label : Option String} {body : Node}
    (head : Program.headerWellScoped around header = true)
    (inside : body.wellScoped (around.inLoop label) = true)
    (taken : ∀ jump target place, isAddressed target label = true →
      watch.takes (.evaluate body frame) (.jumped jump target place)) (fuel : Nat) (block : Bool) :
    Follows watch around (fun self => evalLoop self fuel frame label header body block)
      anything :=
  (runLoop head (runPass inside taken) fuel).andThen fun values =>
    ite (pure trivial) (steady (.newList values))

/-! ## Functions, calls and classes -/

theorem arityFault?_ordinary {function : Function} {count : Nat} {fault : Fault}
    (found : arityFault? function count = some fault) : fault.isStray = false := by
  simp only [arityFault?] at found
  split at found
  · cases found
    rfl
  · cases found

/-- Defaults lie outside of everything, so no signal of theirs reaches the caller. -/
theorem bindOptional {optional : List (String × Node)}
    (defaults : Program.defaultsWellScoped .outside optional = true)
    (arguments : List (Option Value)) :
    Follows watch .outside (fun self => bindOptional self frame optional arguments) anything := by
  induction optional generalizing arguments with
  | nil => exact pure trivial
  | cons entry parameters ih =>
      rcases entry with ⟨parameter, node⟩
      simp only [Program.defaultsWellScoped, Bool.and_eq_true] at defaults
      have left : ∀ rest, Follows watch .outside (fun self => do
          let value ← self.eval node frame
          Evaluation.bindName frame parameter value
          Evaluation.bindOptional self frame parameters rest) anything :=
        fun rest => (evaluate defaults.1 frame).andThen fun value =>
          (steady (.bindName parameter value)).andThen fun _ => ih defaults.2 rest
      match arguments with
      | some value :: rest =>
          exact (steady (.bindName parameter value)).andThen fun _ => ih defaults.2 rest
      | none :: rest => exact left rest
      | [] => exact left []

section Calls

variable {site : CallSite}
  (taken : ∀ function scope value place,
    watch.takes (.evaluate function.body (calleeFrame function site scope))
      (.returned value place))

include taken

theorem enterFunction {function : Function} (inside : function.wellScoped = true)
    (arguments : List (Option Value)) :
    Follows watch .outside (fun self => enterFunction self function arguments site) anything := by
  simp only [Function.wellScoped, Bool.and_eq_true] at inside
  refine (steady (.openScope .empty function.scope)).andThen fun scope => ?_
  refine (steady (.bindRequired function.required arguments)).andThen fun rest => ?_
  refine (bindOptional inside.1 rest).andThen fun _ => ?_
  exact catchReturn inside.2 (taken function scope)

theorem callFunction (settings : Settings) (id : Data.FunctionId)
    (arguments : List (Option Value)) :
    Follows watch .outside (fun self => callFunction self settings id arguments site)
      anything := by
  have read : Heeds .outside (Evaluation.readHeap fun heap => heap.function id)
      fun function => function.wellScoped = true :=
    .readHeap fun _ clean => clean.function id
  refine (steady read).bind fun function inside => ?_
  cases found : arityFault? function arguments.length with
  | some fault => exact steady (.raise (arityFault?_ordinary found))
  | none => exact withinCall (enterFunction taken inside arguments)

omit taken in
theorem callBuiltin (settings : Settings) (id : Data.BuiltinId) (arguments : List (Option Value)) :
    Follows watch around (fun _ => callBuiltin settings id arguments site) anything :=
  look.andThen fun builtin =>
    (steady (.check fun _ => .bindBuiltin builtin arguments)).andThen fun bound =>
      withinCall (steady (.runOperation builtin.operation bound))

omit taken in
theorem instantiate (id : Data.ClassId) (arguments : List (Option Value)) :
    Follows watch .outside (fun self => instantiate self id arguments site) anything := by
  refine andThen (steady (.create fun _ => rfl)) fun object => look.andThen fun found => ?_
  cases found with
  | some member => exact (call member arguments site).andThen fun _ => pure trivial
  | none => exact ite (pure trivial) (look.andThen fun _ => steady (.raise rfl))

/-- Whatever is called, neither a jump nor a return leaves the call. -/
theorem callValue (settings : Settings) (callee : Value) (arguments : List (Option Value)) :
    Follows watch .outside (fun self => callValue self settings callee arguments site)
      anything := by
  cases callee with
  | function id => exact callFunction taken settings id arguments
  | method id receiver => exact callFunction taken settings id _
  | builtin id => exact callBuiltin settings id arguments
  | constructor id => exact instantiate id arguments
  | list id => exact steady (.callSequence _ arguments site)
  | text value => exact steady (.callSequence _ arguments site)
  | _ => exact steady (.raiseTyped fun _ => rfl)

end Calls

theorem evalArguments {arguments : List Node}
    (given : Program.allWellScoped around arguments = true) :
    Follows watch around (fun self => evalArguments self frame arguments) anything := by
  induction arguments with
  | nil => exact pure trivial
  | cons node rest ih =>
      simp only [Program.allWellScoped, Bool.and_eq_true] at given
      refine andThen ?_ fun _ => (ih given.2).andThen fun _ => pure trivial
      unfold evalArgument
      split
      · exact pure trivial
      · exact (evaluate given.1 frame).andThen fun _ => pure trivial

theorem evalCall {span : Span} {callee : Node} {arguments : List Node}
    (inside : callee.wellScoped around = true)
    (given : Program.allWellScoped around arguments = true)
    (taken : ∀ function scope value place,
      watch.takes (.evaluate function.body
        (calleeFrame function ⟨frame, span, arguments.map (·.span)⟩ scope))
        (.returned value place)) (settings : Settings) :
    Follows watch around (fun self => evalCall self settings frame span callee arguments)
      anything :=
  (evaluate inside frame).andThen fun callee => (evalArguments given).andThen fun values =>
    (callValue taken settings callee values).anywhere

theorem evalClass {parent : Option Node} {body : Node}
    (inherited : Program.optionWellScoped around parent = true)
    (inside : body.wellScoped .outside = true) (span : Span) (name : String) :
    Follows watch around (fun self => evalClass self frame span name parent body) anything := by
  have extended : Follows watch around (fun self => evalParent self frame name parent)
      anything := by
    cases parent with
    | none => exact pure trivial
    | some node =>
        refine (evaluate inherited frame).andThen fun value => ?_
        split
        · exact pure trivial
        · exact steady (.raiseTyped fun _ => rfl)
  have ran : Follows watch around (fun self => runClassBody self frame span name body) anything :=
    (steady (.openScope .empty frame.scope)).andThen fun _ =>
      (contain inside _).anywhere.andThen fun _ => pure trivial
  refine extended.andThen fun parent => ran.andThen fun scope => ?_
  refine (steady (.create fun _ => rfl)).andThen fun id => ?_
  exact (steady (.bindName name _)).andThen fun _ => pure trivial

/-! ## Modules -/

theorem moduleBody {program : Node} (inside : program.wellScoped .outside = true) (span : Span)
    (name : String) (document : Document) :
    Follows watch .outside (fun self => moduleBody self frame span name document program)
      anything := by
  simp only [Evaluation.moduleBody, openModule, bind_assoc, pure_bind]
  refine (steady (.create fun _ => rfl)).andThen fun scope => ?_
  refine (steady (.create fun _ => rfl)).andThen fun exports => ?_
  exact (contain inside _).andThen fun _ => look

omit watch in
theorem loadModule_apply (self : Evaluator) (settings : Settings) (span : Span)
    (name path : String) (machine : Machine) :
    loadModule self settings frame span name path machine =
      (match machine.files.readText path with
        | .error error => raise frame span (.loadFailure name error.message)
        | .ok text =>
            match (Grammar.readProgram {} text).1 with
            | .error error => raiseUnreadable frame span name ⟨path, text⟩ error
            | .ok program => runModule self settings frame span name ⟨path, text⟩ program :
        Action (Data.Bindings Value)) machine :=
  rfl

/-- A module whose program is well scoped is loaded; others may be refused. -/
theorem loadModule {settings : Settings} {machine : Machine} {path : String}
    (inside : ∀ text program, machine.files.readText path = .ok text →
      (Grammar.readProgram {} text).1 = .ok program → program.wellScoped .outside = true)
    (clean : machine.heap.Scoped) (span : Span) (name : String) :
    Followed watch .outside anything
      fun self => loadModule self settings frame span name path machine := by
  cases read : machine.files.readText path with
  | error error =>
      simp only [loadModule_apply, read]
      exact steady (.raise rfl) machine clean
  | ok text =>
      cases found : (Grammar.readProgram {} text).1 with
      | error error =>
          simp only [loadModule_apply, read, found]
          exact steady (.raiseUnreadable name ⟨path, text⟩ error) machine clean
      | ok program =>
          simp only [loadModule_apply, read, found]
          have body := inside text program read found
          exact withinCall (moduleBody body span name ⟨path, text⟩) machine clean

omit watch in
theorem importedProgram?_of_found {settings : Settings} {files : Files.Tree}
    {name path text : String} {program : Node}
    (found : (moduleFiles settings name).find? files.isFile = some path)
    (read : files.readText path = .ok text)
    (parsed : (Grammar.readProgram {} text).1 = .ok program) :
    importedProgram? settings files name = some program := by
  unfold importedProgram?
  rw [found]
  simp only
  rw [read]
  simp only
  rw [parsed]
  rfl

theorem evalImport {settings : Settings} {machine : Machine} {name : String}
    (inside : Program.optionWellScoped .outside
      (importedProgram? settings machine.files name) = true)
    (clean : machine.heap.Scoped) (span : Span) (rename : Option String) :
    Followed watch around anything
      fun self => evalImport self settings frame span name rename machine := by
  have library : ∀ exports, Follows watch around
      (fun _ => (do
        let id ← create fun heap => heap.newLibrary ⟨name, exports⟩
        Evaluation.bindName frame (rename.getD name) (.library id)
        return .library id : Action Value)) anything := fun exports =>
    (steady (.create fun _ => rfl)).andThen fun id =>
      (steady (.bindName _ _)).andThen fun _ => pure trivial
  cases found : (moduleFiles settings name).find? machine.files.isFile with
  | none =>
      have native : Followed watch around anything
          fun _ => Evaluation.loadNative frame span name machine :=
        steady (.loadNative name) machine clean
      refine (native.bind fun exports _ => library exports).congr ?_
      intro other _
      simp only [Evaluation.evalImport, bind_apply, findModule?, found]
  | some path =>
      have loaded : Followed watch .outside anything
          fun self => Evaluation.loadModule self settings frame span name path machine := by
        refine loadModule ?_ clean span name
        intro text program read parsed
        rw [importedProgram?_of_found found read parsed] at inside
        exact inside
      refine (loaded.anywhere.bind fun exports _ => library exports).congr ?_
      intro other _
      simp only [Evaluation.evalImport, bind_apply, findModule?, found]

theorem evalExport {node : Node} (inside : node.wellScoped around = true) (name : String) :
    Follows watch around (fun self => evalExport self frame node name) anything := by
  refine (evaluate inside frame).andThen fun value => ?_
  cases frame.exports with
  | some exports =>
      refine andThen (steady (.changeHeap ?_)) fun _ => pure trivial
      intro heap
      rfl
  | none => exact pure trivial

/-! ## Reading and writing -/

theorem evalTarget {node : Node} (inside : node.wellScoped around = true)
    (transfer : Data.Transfer) :
    Follows watch around (fun self => evalTarget self frame transfer node) anything := by
  refine (evaluate inside frame).andThen fun value => ?_
  split
  · exact pure trivial
  · exact steady (.raiseTyped fun _ => rfl)

theorem evalLine {line : Option Node} (inside : Program.optionWellScoped around line = true) :
    Follows watch around (fun self => evalLine self frame line) anything := by
  cases line with
  | none => exact pure trivial
  | some node =>
      refine (evaluate inside frame).andThen fun value => ?_
      split
      · exact ite (pure trivial) (steady (.raise rfl))
      · exact steady (.raiseTyped fun _ => rfl)

theorem evalWrite {text target : Node} {line : Option Node}
    (inside : text.wellScoped around = true) (named : target.wellScoped around = true)
    (numbered : Program.optionWellScoped around line = true) (settings : Settings) (span : Span)
    (overwrite : Bool) :
    Follows watch around
      (fun self => evalWrite self settings frame span text overwrite target line) anything := by
  refine (evaluate inside frame).andThen fun value => look.andThen fun text => ?_
  refine (evalTarget named .write).andThen fun target => (evalLine numbered).andThen fun line => ?_
  refine ite ?_ ?_
  · exact (steady (.printText _)).andThen fun _ => pure trivial
  · exact (steady (.writeFile settings target text overwrite line)).andThen fun _ => pure trivial

theorem evalRead {target : Node} {line : Option Node} (named : target.wellScoped around = true)
    (numbered : Program.optionWellScoped around line = true) (settings : Settings) (span : Span)
    (name : Option String) :
    Follows watch around (fun self => evalRead self settings frame span target name line)
      anything := by
  refine (evalTarget named .read).andThen fun target => (evalLine numbered).andThen fun line => ?_
  refine ite ?_ ?_
  · exact (steady .readLine).andThen fun text => steady (.keepText name text)
  · exact (steady (.readFile settings target line)).andThen fun text => steady (.keepText name text)

end Follows

/-! ## Tasks -/

/-- Every form of a program is followed. -/
theorem followed_evalNode {node : Node} {settings : Settings} {machine : Machine}
    (inside : node.wellScoped around = true)
    (imports : Task.importsScoped settings machine (.evaluate node frame) = true)
    (taken : ∀ {task signal}, Takes (.evaluate node frame) task signal → watch.takes task signal)
    (clean : machine.heap.Scoped) (fuel : Nat) :
    Followed watch around anything fun self => evalNode settings fuel self node frame machine := by
  rcases node with ⟨span, form⟩
  rw [Program.Node.wellScoped] at inside
  cases form with
  | number value => exact Follows.pure trivial machine clean
  | text value => exact Follows.pure trivial machine clean
  | placeholder => exact Follows.pure trivial machine clean
  | list elements =>
      exact Follows.evalList inside machine clean
  | name name => exact Follows.steady (.lookUp name) machine clean
  | inspect name => exact Follows.steady (.evalInspect name) machine clean
  | assign targets op values =>
      simp only [Program.Form.wellScoped, Bool.and_eq_true] at inside
      exact Follows.evalAssign inside.1 inside.2 span op machine clean
  | delete name => exact Follows.steady (.evalDelete name) machine clean
  | binary op left right =>
      simp only [Program.Form.wellScoped, Bool.and_eq_true] at inside
      exact Follows.evalBinary inside.1 inside.2 span op machine clean
  | comparison first links =>
      simp only [Program.Form.wellScoped, Bool.and_eq_true] at inside
      exact (Follows.evaluate inside.1 frame).andThen
        (fun left => .evalLinks inside.2 span left) machine clean
  | unary op operand =>
      exact Follows.evalUnary inside span op machine clean
  | fallback operands => exact Follows.evalFallback inside machine clean
  | conditional cases otherwise block =>
      simp only [Program.Form.wellScoped, Bool.and_eq_true] at inside
      exact Follows.evalConditional inside.1 inside.2 block machine clean
  | loop label header body block =>
      simp only [Program.Form.wellScoped, Bool.and_eq_true] at inside
      exact Follows.evalLoop inside.1 inside.2
        (fun jump target place addressed => taken (.loop addressed)) fuel block machine clean
  | function name required optional body arrow =>
      simp only [Program.Form.wellScoped, Bool.and_eq_true] at inside
      exact Follows.steady (.evalFunction inside.1 inside.2 name required arrow) machine clean
  | classDef name parent body =>
      simp only [Program.Form.wellScoped, Bool.and_eq_true] at inside
      exact Follows.evalClass inside.1 inside.2 span name machine clean
  | call callee arguments =>
      simp only [Program.Form.wellScoped, Bool.and_eq_true] at inside
      exact Follows.evalCall inside.1 inside.2 (fun function scope value place => taken (.call rfl))
        settings machine clean
  | «attribute» base steps =>
      simp only [Program.Form.wellScoped, Bool.and_eq_true] at inside
      exact (Follows.evaluate inside.1 frame).andThen
        (fun value => .evalSteps inside.2 value) machine clean
  | returnFrom value =>
      simp only [Program.Form.wellScoped, Bool.and_eq_true] at inside
      exact Follows.evalReturn inside.1 inside.2 span machine clean
  | breakLoop label => exact Follows.steady (.evalJump inside .leave) machine clean
  | continueLoop label => exact Follows.steady (.evalJump inside .next) machine clean
  | importModule name rename => exact Follows.evalImport imports clean span rename
  | exportAs value name => exact Follows.evalExport inside name machine clean
  | write text overwrite target line =>
      simp only [Program.Form.wellScoped, Bool.and_eq_true] at inside
      exact Follows.evalWrite inside.1.1 inside.1.2 inside.2 settings span overwrite machine clean
  | read target name line =>
      simp only [Program.Form.wellScoped, Bool.and_eq_true] at inside
      exact Follows.evalRead inside.1 inside.2 settings span name machine clean
  | assertion condition message =>
      simp only [Program.Form.wellScoped, Bool.and_eq_true] at inside
      exact Follows.evalAssertion inside.1 inside.2 span machine clean
  | block statements => exact Follows.evalSequence inside .nothing machine clean

/-- Every task is followed to the tasks that it is performed in terms of. -/
theorem followed_performWith {task : Task} {settings : Settings} {machine : Machine}
    (lies : task.Lies around) (imports : task.importsScoped settings machine = true)
    (taken : ∀ {inner signal}, Takes task inner signal → watch.takes inner signal)
    (clean : machine.heap.Scoped) (fuel : Nat) :
    Followed watch around anything fun self => performWith settings fuel self task machine := by
  cases task with
  | evaluate node frame => exact followed_evalNode lies imports taken clean fuel
  | call callee arguments site =>
      rw [show around = .outside from lies]
      exact Follows.callValue (fun function scope value place => taken (.call rfl)) settings callee
        arguments machine clean

end Evaluation
end Scripting
