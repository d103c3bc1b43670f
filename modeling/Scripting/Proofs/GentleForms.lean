import Scripting.Proofs.Dialogues
import Scripting.Proofs.FollowedForms

namespace Scripting
namespace Evaluation

/-!
Every form of a program is a dialogue.

One lemma a form: if its parts do not mention the names of the functions that change lists, then
it asks for nothing but its parts and for calls of values that it came by in a tame heap.  Modules
are imported by name, and then their programs are asked for, so that these must not mention the
names either.
-/

open Data (Bindings Fault Function Heap TameArguments Value changerNames)
open Program (AssignOp BinaryOp CompareOp LoopHeader Node Target avoids_iff)
open Source (Document Span)

/-- Nodes that do not mention the names of the functions that change lists. -/
abbrev Unaware (nodes : List Node) : Prop :=
  ∀ node ∈ nodes, node.Avoids changerNames

/-- Values none of which is a function that changes lists. -/
abbrev TameValues (values : List Value) : Prop :=
  ∀ value ∈ values, value.Tame

/-- If a task imports a module from a file, the text of the file lacks the names. -/
def Task.importsPlain (settings : Settings) (machine : Machine) : Task → Bool
  | .evaluate ⟨_, .importModule name _⟩ _ =>
      ((moduleFiles settings name).find? machine.files.isFile).all fun path =>
        (machine.files.readText path).toOption.all fun text => Lexical.lacks changerNames {} text
  | _ => true

/-- What a turn of a loop hands out, and the state it goes on from. -/
def Turn.Tame {σ : Type} (good : σ → Prop) : Turn σ → Prop
  | .finished => True
  | .made pass next => pass.Tame ∧ ∀ state ∈ next, good state

variable {frame : Frame}

namespace Gentle

/-! ## Names, operators and assignments -/

theorem evalAll {nodes : List Node} (unaware : Unaware nodes) :
    Gentle (fun self => evalAll self frame nodes) TameValues := by
  induction nodes with
  | nil => exact pure (List.forall_mem_nil _)
  | cons node rest ih =>
      obtain ⟨first, later⟩ := List.forall_mem_cons.mp unaware
      exact (evaluate first frame).bind fun value tame => (ih later).bind fun values others =>
        pure (List.forall_mem_cons.mpr ⟨tame, others⟩)

theorem evalList {elements : List Node} (unaware : Unaware elements) :
    Gentle (fun self => evalList self frame elements) Value.Tame :=
  (evalAll unaware).bind fun _ tame => steady (.newList tame)

theorem evalSequence {nodes : List Node} (unaware : Unaware nodes) {last : Value}
    (tame : last.Tame) : Gentle (fun self => evalSequence self frame last nodes) Value.Tame := by
  induction nodes generalizing last with
  | nil => exact pure tame
  | cons node rest ih =>
      obtain ⟨first, later⟩ := List.forall_mem_cons.mp unaware
      exact (evaluate first frame).bind fun value made => ih later made

theorem evalStep {step : Node} (unaware : step.Avoids changerNames) (current : Value) :
    Gentle (fun self => evalStep self frame current step) Value.Tame := by
  have within : ∀ attributes : Bindings Value, attributes.Tame →
      Gentle (fun self => Evaluation.evalStep.evalInside self frame step attributes) Value.Tame :=
    fun attributes held => (steady (.openScope held frame.scope)).andThen fun _ =>
      evaluate unaware _
  have attributes : Lasts (readHeap fun heap => heap.attributes current) Bindings.Tame :=
    .readHeap fun _ tame => tame.attributes current
  refine (steady attributes).bind fun attributes held => ?_
  cases step.headName? with
  | some name => exact ite (within attributes held) (steady .raiseTyped)
  | none => exact within attributes held

theorem evalSteps {steps : List Node} (unaware : Unaware steps) {current : Value}
    (tame : current.Tame) :
    Gentle (fun self => evalSteps self frame current steps) Value.Tame := by
  induction steps generalizing current with
  | nil => exact pure tame
  | cons step rest ih =>
      obtain ⟨first, later⟩ := List.forall_mem_cons.mp unaware
      exact (evalStep first current).bind fun next made => ih later made

theorem evalBinary {left right : Node} (unaware : Unaware [left, right]) (span : Span)
    (op : BinaryOp) :
    Gentle (fun self => evalBinary self frame span op left right) Value.Tame := by
  obtain ⟨first, later⟩ := List.forall_mem_cons.mp unaware
  have second := List.forall_mem_singleton.mp later
  refine (evaluate first frame).bind fun left _ => look.andThen fun decided => ?_
  refine ite (pure trivial) (ite (pure trivial) ?_)
  exact (evaluate second frame).bind fun right tame => steady (.applyBinary op left tame)

theorem evalUnary {operand : Node} (unaware : operand.Avoids changerNames) (span : Span)
    (op : Program.UnaryOp) :
    Gentle (fun self => evalUnary self frame span op operand) Value.Tame :=
  (evaluate unaware frame).bind fun value _ =>
    steady (.check fun _ _ => .unary_all (fun _ => Value.tame_of_isPlain) op value)

theorem evalLinks {links : List (CompareOp × Node)} (unaware : Unaware (links.map Prod.snd))
    (span : Span) (left : Value) :
    Gentle (fun self => evalLinks self frame span left links) Value.Tame := by
  induction links generalizing left with
  | nil => exact pure trivial
  | cons link rest ih =>
      obtain ⟨first, later⟩ := List.forall_mem_cons.mp unaware
      refine (evaluate first frame).bind fun right _ => ?_
      refine (steady (.check fun _ _ => .any _)).andThen fun holds => ?_
      exact ite (ih later right) (pure trivial)

theorem evalFallback {operands : List Node} (unaware : Unaware operands) :
    Gentle (fun self => evalFallback self frame operands) Value.Tame := by
  induction operands with
  | nil => exact pure trivial
  | cons operand rest ih =>
      obtain ⟨first, later⟩ := List.forall_mem_cons.mp unaware
      match rest with
      | [] => exact evaluate first frame
      | _ :: _ =>
          exact (evaluate first frame).bind fun _ tame => ite (ih later) (pure tame)

theorem assignTarget {target : Target Node} (other : target.name ∉ changerNames)
    (unaware : Unaware target.object.toList) (op : AssignOp) {value : Value} (tame : value.Tame) :
    Gentle (fun self => assignTarget self frame op target value) Value.Tame := by
  unfold Evaluation.assignTarget
  cases object : target.object with
  | none => exact steady (.assignName other op tame)
  | some node =>
      rw [object] at unaware
      exact (evaluate (List.forall_mem_singleton.mp unaware) frame).bind fun owner _ =>
        steady (.assignAttribute owner other op tame)

theorem assignAll {targets : List (Target Node)}
    (others : ∀ target ∈ targets, target.name ∉ changerNames)
    (unaware : Unaware (targets.flatMap (·.object.toList))) (op : AssignOp) {values : List Value}
    (tame : TameValues values) :
    Gentle (fun self => assignAll self frame op targets values) TameValues := by
  induction targets generalizing values with
  | nil => exact pure (List.forall_mem_nil _)
  | cons target rest ih =>
      obtain ⟨other, others⟩ := List.forall_mem_cons.mp others
      obtain ⟨first, later⟩ := List.forall_mem_append.mp unaware
      cases values with
      | nil => exact pure (List.forall_mem_nil _)
      | cons value values =>
          obtain ⟨here, there⟩ := List.forall_mem_cons.mp tame
          exact (assignTarget other first op here).bind fun _ made =>
            (ih others later there).bind fun _ rest =>
              pure (List.forall_mem_cons.mpr ⟨made, rest⟩)

theorem evalAssign {targets : List (Target Node)} {nodes : List Node}
    (others : ∀ target ∈ targets, target.name ∉ changerNames)
    (unaware : Unaware (targets.flatMap (·.object.toList) ++ nodes)) (span : Span)
    (op : AssignOp) :
    Gentle (fun self => evalAssign self frame span targets op nodes) Value.Tame := by
  obtain ⟨assigned, given⟩ := List.forall_mem_append.mp unaware
  refine (evalAll given).bind fun values tame => ite (steady .raise) ?_
  refine (assignAll others assigned op tame).bind fun results made => ?_
  split
  · exact pure (List.forall_mem_singleton.mp made)
  · exact steady (.newList made)

/-! ## Branches and statements that leave the normal order -/

/-- The case that is chosen is one of those that are there. -/
theorem chooseCase {cases : List (Node × Node)} {otherwise : Option Node}
    (unaware : Unaware (cases.flatMap (fun case => [case.1, case.2]) ++ otherwise.toList)) :
    Gentle (fun self => chooseCase self frame otherwise cases)
      fun chosen => Unaware chosen.toList := by
  induction cases with
  | nil => exact pure unaware
  | cons case rest ih =>
      rcases case with ⟨condition, body⟩
      obtain ⟨first, unaware⟩ := List.forall_mem_cons.mp unaware
      obtain ⟨second, later⟩ := List.forall_mem_cons.mp unaware
      refine (evaluate first frame).bind fun decided _ => look.andThen fun holds => ?_
      exact ite (pure (List.forall_mem_singleton.mpr second)) (ih later)

theorem evalConditional {cases : List (Node × Node)} {otherwise : Option Node}
    (unaware : Unaware (cases.flatMap (fun case => [case.1, case.2]) ++ otherwise.toList))
    (block : Bool) :
    Gentle (fun self => evalConditional self frame cases otherwise block) Value.Tame := by
  refine (chooseCase unaware).bind fun chosen found => ?_
  cases chosen with
  | none => exact pure trivial
  | some body =>
      refine (evaluate (List.forall_mem_singleton.mp found) frame).bind fun value tame => ?_
      cases block with
      | true => exact pure trivial
      | false => exact pure tame

theorem evalAssertion {condition : Node} {message : Option Node}
    (unaware : Unaware (condition :: message.toList)) (span : Span) :
    Gentle (fun self => evalAssertion self frame span condition message) Value.Tame := by
  obtain ⟨first, said⟩ := List.forall_mem_cons.mp unaware
  have text : Gentle (fun self => evalMessage self frame message) anything := by
    cases message with
    | none => exact pure trivial
    | some node =>
        exact (evaluate (List.forall_mem_singleton.mp said) frame).bind fun _ _ =>
          look.andThen fun _ => pure trivial
  refine (evaluate first frame).bind fun decided _ => look.andThen fun holds => ?_
  exact ite (pure trivial) (text.andThen fun _ => steady .raise)

theorem evalReturn {value : Option Node} (unaware : Unaware value.toList) (span : Span) :
    Gentle (fun self => evalReturn self frame span value) Value.Tame := by
  have result : Gentle (fun self => evalOptional self frame value) Value.Tame := by
    cases value with
    | none => exact pure trivial
    | some node => exact evaluate (List.forall_mem_singleton.mp unaware) frame
  exact result.bind fun _ tame => steady fun _ clean => ⟨clean, .refl _, tame⟩

/-! ## Loops -/

/-- However many turns are taken, each of them is gentle. -/
theorem takeTurns {σ : Type} {turn : Evaluator → σ → Action (Turn σ)} {good : σ → Prop}
    (each : ∀ state, good state → Gentle (fun self => turn self state) (Turn.Tame good))
    (fuel : Nat) {state : σ} (first : good state) {collected : List Value}
    (tame : TameValues collected) :
    Gentle (fun self => takeTurns (turn self) fuel state collected) TameValues := by
  have finished : ∀ values : List Value, TameValues values →
      Gentle (fun _ => Pure.pure values.reverse) TameValues := fun values all =>
    pure fun value member => all value (List.mem_reverse.mp member)
  induction fuel generalizing state collected with
  | zero => exact steady .outOfFuel
  | succ fuel ih =>
      refine (each state first).bind fun taken made => ?_
      rcases taken with _ | ⟨value | _ | _, _ | next⟩
      · exact finished _ tame
      · exact finished _ (List.forall_mem_cons.mpr ⟨made.1, tame⟩)
      · exact ih (made.2 next rfl) (List.forall_mem_cons.mpr ⟨made.1, tame⟩)
      · exact finished _ tame
      · exact ih (made.2 next rfl) tame
      · exact finished _ tame
      · exact finished _ tame

section Turns

variable {pass : Evaluator → Action Pass} (passes : Gentle pass Pass.Tame)

include passes

theorem countedTurn (counter : String) (last step current : Int64) :
    Gentle (fun self => countedTurn frame counter last step (pass self) current)
      (Turn.Tame anything) := by
  have bound : Gentle (fun _ => Evaluation.bindName frame counter (.int current)) anything :=
    steady (.bindName counter trivial)
  exact ite (bound.andThen fun _ => passes.bind fun _ tame => pure ⟨tame, fun _ _ => trivial⟩)
    (pure trivial)

theorem eachTurn (name : String) {items : List Value} (tame : TameValues items) :
    Gentle (fun self => eachTurn frame name (pass self) items) (Turn.Tame TameValues) := by
  cases items with
  | nil => exact pure trivial
  | cons item rest =>
      obtain ⟨first, later⟩ := List.forall_mem_cons.mp tame
      refine (steady (.bindName name first)).andThen fun _ => passes.bind fun _ made => ?_
      exact pure ⟨made, fun _ same => Option.some.inj same ▸ later⟩

variable {condition : Evaluator → Action Bool} (tested : Gentle condition anything)

include tested

theorem whileTurn :
    Gentle (fun self => whileTurn (condition self) (pass self) ()) (Turn.Tame anything) :=
  tested.andThen fun _ =>
    ite (passes.bind fun _ tame => pure ⟨tame, fun _ _ => trivial⟩) (pure trivial)

theorem doWhileTurn :
    Gentle (fun self => doWhileTurn (condition self) (pass self) ()) (Turn.Tame anything) := by
  refine passes.bind fun taken tame => ?_
  split
  · exact pure ⟨trivial, nofun⟩
  · exact tested.andThen fun _ =>
      ite (pure ⟨tame, fun _ _ => trivial⟩) (pure ⟨tame, nofun⟩)

omit tested in
theorem endlessTurn :
    Gentle (fun self => endlessTurn (pass self) ()) (Turn.Tame anything) :=
  passes.bind fun _ tame => pure ⟨tame, fun _ _ => trivial⟩

end Turns

theorem evalBound {node : Node} (unaware : node.Avoids changerNames) (bound : Data.LoopBound) :
    Gentle (fun self => evalBound self frame bound node) anything := by
  refine (evaluate unaware frame).bind fun value _ => ?_
  split
  · exact pure trivial
  · exact steady .raiseTyped

theorem evalStepBound {step : Option Node} (unaware : Unaware step.toList) :
    Gentle (fun self => evalStepBound self frame step) anything := by
  cases step with
  | none => exact pure trivial
  | some node => exact evalBound (List.forall_mem_singleton.mp unaware) .step

theorem evalCondition {condition : Node} (unaware : condition.Avoids changerNames) :
    Gentle (fun self => evalCondition self frame condition) anything :=
  (evaluate unaware frame).bind fun _ _ => look

theorem runLoop {header : LoopHeader Node} {pass : Evaluator → Action Pass}
    (unaware : Unaware (Grammar.loopParts header)) (passes : Gentle pass Pass.Tame)
    (fuel : Nat) :
    Gentle (fun self => runLoop self fuel frame header (pass self)) TameValues := by
  have none : TameValues [] := List.forall_mem_nil _
  cases header with
  | counted counter first last step =>
      obtain ⟨low, unaware⟩ := List.forall_mem_cons.mp unaware
      obtain ⟨high, skip⟩ := List.forall_mem_cons.mp unaware
      refine (evalBound low .start).andThen fun first => ?_
      refine (evalBound high .stop).andThen fun last => ?_
      refine (evalStepBound skip).andThen fun step => ?_
      exact takeTurns (fun current _ => countedTurn passes counter last step current) fuel trivial
        none
  | each name node =>
      refine (evaluate (List.forall_mem_singleton.mp unaware) frame).bind fun value _ => ?_
      have items : Lasts (check frame node.span fun heap => heap.items value) TameValues :=
        .check fun _ tame => .items_all (fun _ => Value.tame_of_isPlain) tame.list value
      exact (steady items).bind fun items tame =>
        takeTurns (fun rest held => eachTurn passes name held) fuel tame none
  | whileTrue condition =>
      have tested : Gentle (fun self => Evaluation.evalCondition self frame condition) anything :=
        evalCondition (List.forall_mem_singleton.mp unaware)
      exact takeTurns (fun _ _ => whileTurn passes tested) fuel trivial none
  | doWhile condition =>
      have tested : Gentle (fun self => Evaluation.evalCondition self frame condition) anything :=
        evalCondition (List.forall_mem_singleton.mp unaware)
      exact takeTurns (fun _ _ => doWhileTurn passes tested) fuel trivial none
  | endless => exact takeTurns (fun _ _ => endlessTurn passes) fuel trivial none

theorem evalLoop {header : LoopHeader Node} {body : Node}
    (unaware : Unaware (body :: Grammar.loopParts header)) (label : Option String) (fuel : Nat)
    (block : Bool) :
    Gentle (fun self => evalLoop self fuel frame label header body block) Value.Tame := by
  obtain ⟨inside, head⟩ := List.forall_mem_cons.mp unaware
  exact (runLoop head (runPass inside label) fuel).bind fun values tame =>
    ite (pure trivial) (steady (.newList tame))

/-! ## Functions, calls and classes -/

theorem bindOptional {optional : List (String × Node)}
    (defaults : ∀ parameter ∈ optional, parameter.2.Avoids changerNames)
    {arguments : List (Option Value)} (given : TameArguments arguments) :
    Gentle (fun self => bindOptional self frame optional arguments) anything := by
  induction optional generalizing arguments with
  | nil => exact pure trivial
  | cons entry parameters ih =>
      rcases entry with ⟨parameter, node⟩
      obtain ⟨here, later⟩ := List.forall_mem_cons.mp defaults
      have left : ∀ rest, TameArguments rest → Gentle (fun self => do
          let value ← self.eval node frame
          Evaluation.bindName frame parameter value
          Evaluation.bindOptional self frame parameters rest) anything :=
        fun rest others => (evaluate here frame).bind fun value tame =>
          (steady (.bindName parameter tame)).andThen fun _ => ih later others
      match arguments, given with
      | some value :: rest, given =>
          obtain ⟨first, others⟩ := List.forall_mem_cons.mp given
          exact (steady (.bindName parameter (first value rfl))).andThen fun _ => ih later others
      | none :: rest, given => exact left rest (List.forall_mem_cons.mp given).2
      | [], given => exact left [] given

section Calls

variable {site : CallSite} {arguments : List (Option Value)} (given : TameArguments arguments)

include given

theorem enterFunction {function : Function} (tame : function.Tame) :
    Gentle (fun self => enterFunction self function arguments site) Value.Tame := by
  refine (steady (.openScope Data.Bindings.tame_empty function.scope)).andThen fun scope => ?_
  refine (steady (.bindRequired function.required given)).bind fun rest others => ?_
  refine (bindOptional tame.optional others).andThen fun _ => catchReturn ?_
  refine (evaluate tame.body _).bind fun value made => ?_
  cases function.arrow with
  | true => exact pure made
  | false => exact pure trivial

theorem callFunction (settings : Settings) (id : Data.FunctionId) :
    Gentle (fun self => callFunction self settings id arguments site) Value.Tame := by
  have found : Lasts (readHeap fun heap => heap.function id) Function.Tame :=
    .readHeap fun _ tame => tame.function id
  refine (steady found).bind fun function tame => ?_
  cases arityFault? function arguments.length with
  | some fault => exact steady .raise
  | none => exact withinCall (enterFunction given tame)

theorem instantiate (id : Data.ClassId) :
    Gentle (fun self => instantiate self id arguments site) Value.Tame := by
  refine (steady (.newInstance id)).andThen fun object => ?_
  have found : Lasts (readHeap fun heap => heap.attribute? object initializer)
      fun found => ∀ value ∈ found, value.Tame :=
    .readHeap fun _ tame value there => tame.attribute? (by decide) there
  refine (steady found).bind fun result holds => ?_
  cases result with
  | some member =>
      exact (call (holds member rfl) given site).bind fun _ _ => pure trivial
  | none => exact ite (pure trivial) (look.andThen fun _ => steady .raise)

theorem callValue (settings : Settings) {callee : Value} (tame : callee.Tame) :
    Gentle (fun self => callValue self settings callee arguments site) Value.Tame := by
  cases callee with
  | function id => exact callFunction given settings id
  | method id receiver =>
      have extended : TameArguments (some (.object receiver) :: arguments) :=
        List.forall_mem_cons.mpr ⟨fun _ same => Option.some.inj same ▸ trivial, given⟩
      exact callFunction extended settings id
  | builtin id => exact steady (.callBuiltin tame settings arguments site)
  | constructor id => exact instantiate given id
  | list id => exact steady (.callSequence _ arguments site)
  | text value => exact steady (.callSequence _ arguments site)
  | _ => exact steady .raiseTyped

end Calls

theorem evalArguments {arguments : List Node} (unaware : Unaware arguments) :
    Gentle (fun self => evalArguments self frame arguments) TameArguments := by
  induction arguments with
  | nil => exact pure (List.forall_mem_nil _)
  | cons node rest ih =>
      obtain ⟨first, later⟩ := List.forall_mem_cons.mp unaware
      have argument : Gentle (fun self => evalArgument self frame node)
          fun argument => ∀ value ∈ argument, value.Tame := by
        unfold evalArgument
        split
        · exact pure nofun
        · exact (evaluate first frame).bind fun value tame =>
            pure fun _ same => Option.some.inj same ▸ tame
      exact argument.bind fun _ here => (ih later).bind fun _ others =>
        pure (List.forall_mem_cons.mpr ⟨here, others⟩)

theorem evalCall {callee : Node} {arguments : List Node}
    (unaware : Unaware (callee :: arguments)) (settings : Settings) (span : Span) :
    Gentle (fun self => evalCall self settings frame span callee arguments) Value.Tame := by
  obtain ⟨first, others⟩ := List.forall_mem_cons.mp unaware
  exact (evaluate first frame).bind fun _ tame => (evalArguments others).bind fun _ given =>
    callValue given settings tame

theorem evalClass {parent : Option Node} {body : Node}
    (unaware : Unaware (body :: parent.toList)) (span : Span) (name : String) :
    Gentle (fun self => evalClass self frame span name parent body) Value.Tame := by
  obtain ⟨inside, inherited⟩ := List.forall_mem_cons.mp unaware
  have extended : Gentle (fun self => evalParent self frame name parent) anything := by
    cases parent with
    | none => exact pure trivial
    | some node =>
        refine (evaluate (List.forall_mem_singleton.mp inherited) frame).bind fun value _ => ?_
        split
        · exact pure trivial
        · exact steady .raiseTyped
  have ran : Gentle (fun self => runClassBody self frame span name body) anything :=
    (steady (.openScope Data.Bindings.tame_empty frame.scope)).andThen fun _ =>
      (contain (evaluate inside _)).bind fun _ _ => pure trivial
  refine extended.andThen fun parent => ran.andThen fun scope => ?_
  have made : Lasts (create fun heap =>
      heap.newClass (heap.extendClass name (heap.table scope.inner) parent)) anything :=
    .create (fun _ tame => ⟨trivial, tame.newClass (tame.table _)⟩) fun _ => .of_eq rfl
  refine (steady made).andThen fun id => ?_
  have tame : (Value.constructor id).Tame := trivial
  exact (steady (.bindName name tame)).andThen fun _ => pure tame

/-! ## Modules -/

theorem moduleBody {program : Node} (unaware : program.Avoids changerNames) (span : Span)
    (name : String) (document : Document) :
    Gentle (fun self => moduleBody self frame span name document program) Bindings.Tame := by
  have opened : Lasts (create fun heap => heap.newScope .empty [preludeTable]) anything :=
    .create (fun _ tame => ⟨trivial, tame.newScope Data.Bindings.tame_empty _⟩) fun _ => .of_eq rfl
  have kept : Lasts (create fun heap => heap.newExports) anything :=
    .create (fun _ tame => ⟨trivial, tame.newExports⟩) fun _ => .of_eq rfl
  simp only [Evaluation.moduleBody, openModule, bind_assoc, pure_bind]
  refine (steady opened).andThen fun scope => (steady kept).andThen fun exports => ?_
  exact (contain (evaluate unaware _)).bind fun _ _ =>
    steady (.readHeap fun _ tame => tame.exported exports)

/-- A module whose text lacks the names is loaded as a dialogue. -/
theorem loadModule {settings : Settings} {machine : Machine} {path : String}
    (plain : (machine.files.readText path).toOption.all
      fun text => Lexical.lacks changerNames {} text)
    (tame : machine.heap.Tame) (span : Span) (name : String) :
    Dialogue Bindings.Tame machine.heap
      fun self => loadModule self settings frame span name path machine := by
  cases read : machine.files.readText path with
  | error error =>
      simp only [Follows.loadModule_apply, read]
      exact steady .raise machine tame
  | ok text =>
      rw [read] at plain
      cases found : (Grammar.readProgram {} text).1 with
      | error error =>
          simp only [Follows.loadModule_apply, read, found]
          exact steady (.raiseUnreadable name ⟨path, text⟩ error) machine tame
      | ok program =>
          simp only [Follows.loadModule_apply, read, found]
          have unaware := Grammar.readProgram_avoids plain found
          exact withinCall (moduleBody unaware span name ⟨path, text⟩) machine tame

/-- Whatever a module exports, it is bound as a library. -/
def bindLibrary (frame : Frame) (name : String) (rename : Option String)
    (exports : Bindings Value) : Action Value := do
  let id ← create fun heap => heap.newLibrary ⟨name, exports⟩
  bindName frame (rename.getD name) (.library id)
  return .library id

theorem evalImport_apply (self : Evaluator) (settings : Settings) (span : Span) (name : String)
    (rename : Option String) (machine : Machine) :
    Evaluation.evalImport self settings frame span name rename machine =
      (match (moduleFiles settings name).find? machine.files.isFile with
        | some path =>
            Evaluation.loadModule self settings frame span name path >>= bindLibrary frame name rename
        | none => Evaluation.loadNative frame span name >>= bindLibrary frame name rename :
        Action Value) machine := by
  cases found : (moduleFiles settings name).find? machine.files.isFile <;>
    simp only [Evaluation.evalImport, bindLibrary, bind_apply, findModule?, found]

theorem evalImport {settings : Settings} {machine : Machine} {span : Span} {name : String}
    {rename : Option String}
    (plain : Task.importsPlain settings machine
      (.evaluate ⟨span, .importModule name rename⟩ frame) = true)
    (tame : machine.heap.Tame) :
    Dialogue Value.Tame machine.heap
      fun self => Evaluation.evalImport self settings frame span name rename machine := by
  have bound : ∀ exports : Bindings Value, exports.Tame →
      Gentle (fun _ => bindLibrary frame name rename exports) Value.Tame := by
    intro exports held
    have made : Lasts (create fun heap => heap.newLibrary ⟨name, exports⟩) anything :=
      .create (fun _ tame => ⟨trivial, tame.newLibrary held⟩) fun _ => .of_eq rfl
    refine (steady made).andThen fun id => ?_
    have tame : (Value.library id).Tame := trivial
    exact (steady (.bindName _ tame)).andThen fun _ => pure tame
  cases found : (moduleFiles settings name).find? machine.files.isFile with
  | none =>
      simp only [evalImport_apply, found]
      exact (steady (.loadNative name)).bind bound machine tame
  | some path =>
      simp only [evalImport_apply, found]
      have text : (machine.files.readText path).toOption.all
          fun text => Lexical.lacks changerNames {} text := by
        simpa only [Task.importsPlain, found, Option.all_some] using plain
      exact (loadModule text tame span name).bind bound

theorem evalExport {node : Node} (unaware : node.Avoids changerNames) (name : String) :
    Gentle (fun self => evalExport self frame node name) Value.Tame := by
  refine (evaluate unaware frame).bind fun value tame => ?_
  cases frame.exports with
  | some exports =>
      have added : Lasts (Evaluation.changeHeap fun heap => heap.addExport exports name value)
          anything :=
        .changeHeap (fun _ clean => clean.addExport exports fun _ => tame) fun _ => rfl
      exact (steady added).andThen fun _ => pure tame
  | none => exact pure tame

/-! ## Reading and writing -/

theorem evalTarget {node : Node} (unaware : node.Avoids changerNames) (transfer : Data.Transfer) :
    Gentle (fun self => evalTarget self frame transfer node) anything := by
  refine (evaluate unaware frame).bind fun value _ => ?_
  split
  · exact pure trivial
  · exact steady .raiseTyped

theorem evalLine {line : Option Node} (unaware : Unaware line.toList) :
    Gentle (fun self => evalLine self frame line) anything := by
  cases line with
  | none => exact pure trivial
  | some node =>
      refine (evaluate (List.forall_mem_singleton.mp unaware) frame).bind fun value _ => ?_
      split
      · exact ite (pure trivial) (steady .raise)
      · exact steady .raiseTyped

theorem evalWrite {text target : Node} {line : Option Node}
    (unaware : Unaware (text :: target :: line.toList)) (settings : Settings) (span : Span)
    (overwrite : Bool) :
    Gentle (fun self => evalWrite self settings frame span text overwrite target line)
      Value.Tame := by
  obtain ⟨first, unaware⟩ := List.forall_mem_cons.mp unaware
  obtain ⟨named, numbered⟩ := List.forall_mem_cons.mp unaware
  refine (evaluate first frame).bind fun value _ => look.andThen fun text => ?_
  refine (evalTarget named .write).andThen fun target => (evalLine numbered).andThen fun line => ?_
  refine ite ?_ ?_
  · exact (steady (.printText _)).andThen fun _ => pure trivial
  · exact (steady (.writeFile settings target text overwrite line)).andThen fun _ => pure trivial

theorem evalRead {target : Node} {line : Option Node}
    (unaware : Unaware (target :: line.toList)) (settings : Settings) (span : Span)
    (name : Option String) :
    Gentle (fun self => evalRead self settings frame span target name line) Value.Tame := by
  obtain ⟨named, numbered⟩ := List.forall_mem_cons.mp unaware
  refine (evalTarget named .read).andThen fun target => (evalLine numbered).andThen fun line => ?_
  refine ite ?_ ?_
  · exact (steady .readLine).andThen fun text => steady (.keepText name text)
  · exact (steady (.readFile settings target line)).andThen fun text => steady (.keepText name text)

end Gentle

/-! ## Tasks -/

/-- Every form of a program is a dialogue. -/
theorem dialogue_evalNode {node : Node} {settings : Settings} {machine : Machine}
    (avoids : node.Avoids changerNames)
    (plain : Task.importsPlain settings machine (.evaluate node frame) = true)
    (tame : machine.heap.Tame) (fuel : Nat) :
    Dialogue Value.Tame machine.heap fun self => evalNode settings fuel self node frame machine := by
  rcases node with ⟨span, form⟩
  obtain ⟨others, unaware⟩ := avoids_iff.mp avoids
  cases form with
  | number value =>
      have made : (evalLiteral value).Tame := by cases value <;> trivial
      exact Gentle.pure made machine tame
  | text value => exact Gentle.pure trivial machine tame
  | placeholder => exact Gentle.pure trivial machine tame
  | list elements => exact Gentle.evalList unaware machine tame
  | name name =>
      exact Gentle.steady (.lookUp (others name List.mem_cons_self)) machine tame
  | inspect name =>
      exact Gentle.steady (.evalInspect (others name List.mem_cons_self)) machine tame
  | assign targets op values =>
      have named : ∀ target ∈ targets, target.name ∉ changerNames :=
        fun target listed => others target.name (List.mem_map_of_mem listed)
      exact Gentle.evalAssign named unaware span op machine tame
  | delete name =>
      exact Gentle.steady (.evalDelete (others name List.mem_cons_self)) machine tame
  | binary op left right => exact Gentle.evalBinary unaware span op machine tame
  | comparison first links =>
      obtain ⟨first, later⟩ := List.forall_mem_cons.mp unaware
      exact (Gentle.evaluate first frame).bind (fun left _ => .evalLinks later span left) machine tame
  | unary op operand =>
      exact Gentle.evalUnary (List.forall_mem_singleton.mp unaware) span op machine tame
  | fallback operands => exact Gentle.evalFallback unaware machine tame
  | conditional cases otherwise block => exact Gentle.evalConditional unaware block machine tame
  | loop label header body block => exact Gentle.evalLoop unaware label fuel block machine tame
  | function name required optional body arrow =>
      obtain ⟨inside, defaults⟩ := List.forall_mem_cons.mp unaware
      exact Gentle.steady (.evalFunction inside (List.forall_mem_map.mp defaults) name required arrow)
        machine tame
  | classDef name parent body => exact Gentle.evalClass unaware span name machine tame
  | call callee arguments => exact Gentle.evalCall unaware settings span machine tame
  | «attribute» base steps =>
      obtain ⟨first, later⟩ := List.forall_mem_cons.mp unaware
      exact (Gentle.evaluate first frame).bind (fun _ tame => .evalSteps later tame) machine tame
  | returnFrom value => exact Gentle.evalReturn unaware span machine tame
  | breakLoop label => exact Gentle.steady (.evalJump .leave label) machine tame
  | continueLoop label => exact Gentle.steady (.evalJump .next label) machine tame
  | importModule name rename => exact Gentle.evalImport plain tame
  | exportAs value name =>
      exact Gentle.evalExport (List.forall_mem_singleton.mp unaware) name machine tame
  | write text overwrite target line =>
      exact Gentle.evalWrite unaware settings span overwrite machine tame
  | read target name line => exact Gentle.evalRead unaware settings span name machine tame
  | assertion condition message => exact Gentle.evalAssertion unaware span machine tame
  | block statements =>
      have nothing : Value.nothing.Tame := trivial
      exact Gentle.evalSequence unaware nothing machine tame

/-- Every tame task that imports nothing else is a dialogue. -/
theorem dialogue_performWith {task : Task} {settings : Settings} {machine : Machine}
    (question : task.Tame) (plain : task.importsPlain settings machine = true)
    (tame : machine.heap.Tame) (fuel : Nat) :
    Dialogue Value.Tame machine.heap fun self => performWith settings fuel self task machine := by
  cases task with
  | evaluate node frame => exact dialogue_evalNode question plain tame fuel
  | call callee arguments site =>
      exact Gentle.callValue question.2 settings question.1 machine tame

end Evaluation
end Scripting
