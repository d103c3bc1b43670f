import Scripting.Proofs.PlacedActions

namespace Scripting
namespace Evaluation

/-!
Programs inside other surroundings.

Every form of a program does in its surroundings what it does at home, provided that its parts
do.  By induction on the fuel, evaluation as a whole does.
-/

open Data (Bindings ClassId Fault Function Heap Scope Surroundings Value)
open Program (AssignOp BinaryOp CompareOp LoopHeader Node Target)
open Source (Document Span)

/-- An evaluator performs in its surroundings the tasks that another one performs at home. -/
structure Evaluator.Carried (host : Host) (home away : Evaluator) : Prop where
  evaluate : ∀ node frame,
    Carries host host.value (home.eval node frame) (away.eval node (host.frame frame))
  call : ∀ callee arguments site,
    Carries host host.value (home (.call callee arguments site))
      (away (.call (host.value callee) (host.given arguments) (host.site site)))

/-- What a loop does when its turn comes, with its state and the value of a pass in their place. -/
def Host.turn (host : Host) {σ τ : Type} (state : σ → τ) : Turn σ → Turn τ
  | .finished => .finished
  | .made pass next => .made (host.pass pass) (next.map state)

/-- Evaluate a module in a frame that a trail leads to, and give what it exports. -/
def moduleIn (self : Evaluator) (trail : Trail) (document : Document) (program : Node) :
    Action (Bindings Value) := do
  let scope ← create fun heap => heap.newScope .empty [preludeTable]
  let exports ← create fun heap => heap.newExports
  let inside : Frame := ⟨trail, scope, some exports, document⟩
  let _ ← contain inside (self.eval program inside)
  readHeap fun heap => heap.exported exports

theorem moduleBody_eq (self : Evaluator) (frame : Frame) (span : Span) (name : String)
    (document : Document) (program : Node) :
    moduleBody self frame span name document program =
      moduleIn self (frame.enter s!"<module {name}>" span) document program := by
  simp only [moduleBody, openModule, bind_assoc, pure_bind]
  rfl

namespace Carries

section Forms

variable {host : Host} {home away : Evaluator} (carried : home.Carried host away)
  {frame : Frame} {span : Span}
include carried

/-! ## Names, literals, operators and assignments -/

theorem evalAll (nodes : List Node) :
    Carries host host.values (evalAll home frame nodes)
      (Evaluation.evalAll away (host.frame frame) nodes) := by
  induction nodes with
  | nil => exact pure []
  | cons node rest ih =>
      exact (carried.evaluate node frame).bind fun value => ih.bind fun values =>
        pure (value :: values)

theorem evalSequence (nodes : List Node) (last : Value) :
    Carries host host.value (evalSequence home frame last nodes)
      (Evaluation.evalSequence away (host.frame frame) (host.value last) nodes) := by
  induction nodes generalizing last with
  | nil => exact pure last
  | cons node rest ih => exact (carried.evaluate node frame).bind fun value => ih value

theorem evalList (elements : List Node) :
    Carries host host.value (evalList home frame elements)
      (Evaluation.evalList away (host.frame frame) elements) :=
  (evalAll carried elements).bind newList

omit carried in
theorem evalInspect (name : String) :
    Carries host host.value (evalInspect frame span name)
      (Evaluation.evalInspect (host.frame frame) span name) := by
  refine (lookUp name).bind fun value => ?_
  have shown : Carries host id (Evaluation.readHeap fun heap => heap.represent value)
      (Evaluation.readHeap fun heap => heap.represent (host.value value)) :=
    readHeap fun _ stocked => Surroundings.represent_heap stocked value
  exact shown.bind fun _ => (printText _).bind fun _ => pure value

theorem evalStep (current : Value) (step : Node) :
    Carries host host.value (evalStep home frame current step)
      (Evaluation.evalStep away (host.frame frame) (host.value current) step) := by
  have inside : ∀ attributes, Carries host host.value
      (Evaluation.evalStep.evalInside home frame step attributes)
      (Evaluation.evalStep.evalInside away (host.frame frame) step
        (host.bindings attributes)) :=
    fun attributes => (openScope attributes frame.scope).bind fun scope =>
      carried.evaluate step { frame with scope := scope, exports := none }
  have reached : Carries host host.bindings
      (Evaluation.readHeap fun heap => heap.attributes current)
      (Evaluation.readHeap fun heap => heap.attributes (host.value current)) :=
    readHeap fun _ _ => Surroundings.attributes_heap current
  refine reached.bind fun attributes => ?_
  cases step.headName? with
  | none => exact inside attributes
  | some name =>
      have bound : (host.bindings attributes).contains name = attributes.contains name := by
        unfold Bindings.contains
        rw [Surroundings.bindings, Bindings.get?_map, Option.isSome_map]
      simp only
      rw [bound]
      exact ite (fun _ => inside attributes) fun _ =>
        raiseTyped current (.noAttribute · name)

theorem evalSteps (current : Value) (steps : List Node) :
    Carries host host.value (evalSteps home frame current steps)
      (Evaluation.evalSteps away (host.frame frame) (host.value current) steps) := by
  induction steps generalizing current with
  | nil => exact pure current
  | cons step rest ih => exact (evalStep carried current step).bind fun next => ih next

theorem evalAttribute (base : Node) (steps : List Node) :
    Carries host host.value (evalAttribute home frame base steps)
      (Evaluation.evalAttribute away (host.frame frame) base steps) :=
  (carried.evaluate base frame).bind fun value => evalSteps carried value steps

omit carried in
theorem applyBinary (op : BinaryOp) (left right : Value) :
    Carries host host.value (applyBinary frame span op left right)
      (Evaluation.applyBinary (host.frame frame) span op (host.value left) (host.value right)) :=
  (check fun _ _ => Surroundings.binary_heap op left right).bind realize

theorem evalBinary (op : BinaryOp) (left right : Node) :
    Carries host host.value (evalBinary home frame span op left right)
      (Evaluation.evalBinary away (host.frame frame) span op left right) := by
  refine (carried.evaluate left frame).bind fun first => (isTruthy first).bind fun decided => ?_
  refine ite (fun _ => pure (Value.ofBool false)) fun _ => ?_
  refine ite (fun _ => pure (Value.ofBool true)) fun _ => ?_
  exact (carried.evaluate right frame).bind fun second => applyBinary op first second

theorem evalLinks (left : Value) (links : List (CompareOp × Node)) :
    Carries host host.value (evalLinks home frame span left links)
      (Evaluation.evalLinks away (host.frame frame) span (host.value left) links) := by
  induction links generalizing left with
  | nil => exact pure (Value.ofBool true)
  | cons link rest ih =>
      obtain ⟨op, node⟩ := link
      refine (carried.evaluate node frame).bind fun right => ?_
      have compared : Carries host id
          (Evaluation.check frame span fun heap => heap.compare op left right)
          (Evaluation.check (host.frame frame) span fun heap =>
            heap.compare op (host.value left) (host.value right)) := by
        refine check fun heap _ => ?_
        rw [Surroundings.compare_heap]
        cases heap.compare op left right <;> rfl
      exact compared.bind fun _ =>
        ite (fun _ => ih right) fun _ => pure (Value.ofBool false)

theorem evalComparison (first : Node) (links : List (CompareOp × Node)) :
    Carries host host.value (evalComparison home frame span first links)
      (Evaluation.evalComparison away (host.frame frame) span first links) :=
  (carried.evaluate first frame).bind fun left => evalLinks carried left links

theorem evalUnary (op : Program.UnaryOp) (operand : Node) :
    Carries host host.value (evalUnary home frame span op operand)
      (Evaluation.evalUnary away (host.frame frame) span op operand) :=
  (carried.evaluate operand frame).bind fun value =>
    check fun _ _ => Surroundings.unary_heap op value

theorem evalFallback (operands : List Node) :
    Carries host host.value (evalFallback home frame operands)
      (Evaluation.evalFallback away (host.frame frame) operands) := by
  induction operands with
  | nil => exact pure Value.nothing
  | cons operand rest ih =>
      cases rest with
      | nil => exact carried.evaluate operand frame
      | cons next others =>
          refine (carried.evaluate operand frame).bind fun value => ?_
          have absent : host.value value = .nothing ↔ value = .nothing := by
            cases value <;> simp [Surroundings.value]
          simp only [absent]
          exact ite (fun _ => ih) fun _ => pure value

omit carried in
theorem combine (op : AssignOp) {current current' : Action Value}
    (stored : Carries host host.value current current') (value : Value) :
    Carries host host.value (combine frame span op current value)
      (Evaluation.combine (host.frame frame) span op current' (host.value value)) := by
  cases op with
  | set => exact pure value
  | compound binary => exact stored.bind fun old => applyBinary binary old value

omit carried in
theorem assignName (name : String) (op : AssignOp) (value : Value) :
    Carries host host.value (assignName frame span name op value)
      (Evaluation.assignName (host.frame frame) span name op (host.value value)) :=
  (combine op (lookUp name) value).bind fun assigned =>
    (bindName name assigned).bind fun _ => pure assigned

omit carried in
theorem storedAttribute (object : Data.ObjectId) (name : String) :
    Carries host host.value (storedAttribute frame span object name)
      (Evaluation.storedAttribute (host.frame frame) span (host.object object) name) := by
  have found : Carries host (Option.map host.value)
      (Evaluation.readHeap fun heap => (heap.object object).attributes.get? name)
      (Evaluation.readHeap fun heap =>
        (heap.object (host.object object)).attributes.get? name) := by
    refine readHeap fun heap _ => ?_
    rw [Surroundings.attributes_object_heap, Surroundings.bindings, Bindings.get?_map]
  refine found.bind fun value => ?_
  cases value with
  | some value => exact pure value
  | none => exact raiseTyped (.object object) (.noAttribute · name)

omit carried in
theorem assignAttribute (owner : Value) (name : String) (op : AssignOp) (value : Value) :
    Carries host host.value (assignAttribute frame span owner name op value)
      (Evaluation.assignAttribute (host.frame frame) span (host.value owner) name op
        (host.value value)) := by
  cases owner with
  | object object =>
      refine (combine op (storedAttribute object name) value).bind fun assigned => ?_
      have changed : Carries host id
          (Evaluation.changeHeap fun heap => heap.setAttribute object name assigned)
          (Evaluation.changeHeap fun heap =>
            heap.setAttribute (host.object object) name (host.value assigned)) :=
        changeHeap (fun _ _ => Surroundings.setAttribute_heap object name assigned)
          fun _ stocked => ⟨stocked.1, stocked.2⟩
      exact changed.bind fun _ => pure assigned
  | _ => exact raiseTyped _ (.cannotSetAttribute name)

theorem assignTarget (op : AssignOp) (target : Target Node) (value : Value) :
    Carries host host.value (assignTarget home frame op target value)
      (Evaluation.assignTarget away (host.frame frame) op target (host.value value)) := by
  unfold Evaluation.assignTarget
  cases target.object with
  | none => exact assignName target.name op value
  | some node =>
      exact (carried.evaluate node frame).bind fun owner =>
        assignAttribute owner target.name op value

theorem assignAll (op : AssignOp) (targets : List (Target Node)) (values : List Value) :
    Carries host host.values (assignAll home frame op targets values)
      (Evaluation.assignAll away (host.frame frame) op targets (host.values values)) := by
  induction targets generalizing values with
  | nil => exact pure []
  | cons target targets ih =>
      cases values with
      | nil => exact pure []
      | cons value values =>
          exact (assignTarget carried op target value).bind fun assigned =>
            (ih values).bind fun others => pure (assigned :: others)

theorem evalAssign (targets : List (Target Node)) (op : AssignOp) (nodes : List Node) :
    Carries host host.value (evalAssign home frame span targets op nodes)
      (Evaluation.evalAssign away (host.frame frame) span targets op nodes) := by
  refine (evalAll carried nodes).bind fun values => ?_
  have count : (host.values values).length = values.length := List.length_map _
  rw [count]
  refine ite (fun _ => raise _) fun _ => ?_
  refine (assignAll carried op targets values).bind fun assigned => ?_
  match assigned with
  | [] => exact newList []
  | [value] => exact pure value
  | first :: second :: rest => exact newList (first :: second :: rest)

omit carried in
theorem evalDelete (name : String) :
    Carries host host.value (evalDelete frame span name)
      (Evaluation.evalDelete (host.frame frame) span name) := by
  have found : Carries host (Option.map host.value)
      (Evaluation.readHeap fun heap => (heap.table frame.scope.inner).get? name)
      (Evaluation.readHeap fun heap => (heap.table (host.frame frame).scope.inner).get? name) := by
    refine readHeap fun heap stocked => ?_
    have table := Surroundings.table_heap stocked frame.scope.inner
    change ((host.heap heap).table (host.table frame.scope.inner)).get? name = _
    rw [table, Surroundings.bindings, Bindings.get?_map]
  refine found.bind fun value => ?_
  cases value with
  | none => exact raiseUndefined name
  | some value =>
      have removed : Carries host id
          (Evaluation.changeHeap fun heap => heap.unbind frame.scope.inner name)
          (Evaluation.changeHeap fun heap =>
            heap.unbind (host.frame frame).scope.inner name) := by
        refine changeHeap (fun _ stocked => ?_) fun heap stocked => ?_
        · exact Surroundings.unbind_heap stocked frame.scope.inner name
        · refine ⟨?_, stocked.functions⟩
          simp only [Heap.unbind, Array.size_modify]
          exact stocked.prelude
      exact removed.bind fun _ => pure value

/-! ## Branches and statements that leave the normal order -/

theorem chooseCase (otherwise : Option Node) (cases : List (Node × Node)) :
    Carries host id (chooseCase home frame otherwise cases)
      (Evaluation.chooseCase away (host.frame frame) otherwise cases) := by
  induction cases with
  | nil => exact pure otherwise
  | cons branch rest ih =>
      exact (carried.evaluate branch.1 frame).bind fun decided => (isTruthy decided).bind fun _ =>
        ite (fun _ => pure (some branch.2)) fun _ => ih

theorem evalConditional (cases : List (Node × Node)) (otherwise : Option Node) (block : Bool) :
    Carries host host.value (evalConditional home frame cases otherwise block)
      (Evaluation.evalConditional away (host.frame frame) cases otherwise block) := by
  refine (chooseCase carried otherwise cases).bind fun chosen => ?_
  cases chosen with
  | none => exact pure Value.nothing
  | some body =>
      refine (carried.evaluate body frame).bind fun value => ?_
      cases block with
      | true => exact pure Value.nothing
      | false => exact pure value

theorem evalMessage (message : Option Node) :
    Carries host id (evalMessage home frame message)
      (Evaluation.evalMessage away (host.frame frame) message) := by
  cases message with
  | none => exact pure none
  | some node =>
      exact (carried.evaluate node frame).bind fun value => (display value).bind fun text =>
        pure (some text)

theorem evalAssertion (condition : Node) (message : Option Node) :
    Carries host host.value (evalAssertion home frame span condition message)
      (Evaluation.evalAssertion away (host.frame frame) span condition message) := by
  refine (carried.evaluate condition frame).bind fun decided => (isTruthy decided).bind fun _ => ?_
  refine ite (fun _ => pure Value.nothing) fun _ => ?_
  exact (evalMessage carried message).bind fun _ => raise _

theorem evalReturn (value : Option Node) :
    Carries host host.value (evalReturn home frame span value)
      (Evaluation.evalReturn away (host.frame frame) span value) := by
  have result : Carries host host.value (evalOptional home frame value)
      (evalOptional away (host.frame frame) value) := by
    cases value with
    | none => exact pure Value.nothing
    | some node => exact carried.evaluate node frame
  exact result.bind fun result => throwSignal (.returned result (frame.place span))

/-! ## Loops -/

omit carried in
/-- A loop takes the same turns as long as its states correspond. -/
theorem takeTurns {σ τ : Type} {state : σ → τ} {turn : σ → Action (Turn σ)}
    {turn' : τ → Action (Turn τ)}
    (turns : ∀ current, Carries host (host.turn state) (turn current) (turn' (state current)))
    (fuel : Nat) (current : σ) (collected : List Value) :
    Carries host host.values (takeTurns turn fuel current collected)
      (Evaluation.takeTurns turn' fuel (state current) (host.values collected)) := by
  have finished : ∀ values : List Value,
      Carries host host.values (Pure.pure values.reverse : Action (List Value))
        (Pure.pure (host.values values).reverse) := by
    intro values
    unfold Surroundings.values
    rw [← List.map_reverse]
    exact pure values.reverse
  induction fuel generalizing current collected with
  | zero => exact outOfFuel
  | succ fuel ih =>
      refine (turns current).bind fun taken => ?_
      match taken with
      | .finished => exact finished collected
      | .made .left _ => exact finished collected
      | .made (.completed value) none => exact finished (value :: collected)
      | .made (.completed value) (some next) => exact ih next (value :: collected)
      | .made .skipped none => exact finished collected
      | .made .skipped (some next) => exact ih next collected

theorem evalBound (bound : Data.LoopBound) (node : Node) :
    Carries host id (evalBound home frame bound node)
      (Evaluation.evalBound away (host.frame frame) bound node) := by
  refine (carried.evaluate node frame).bind fun value => ?_
  cases value with
  | int n => exact pure n
  | _ => exact raiseTyped _ (.loopBound bound)

theorem evalStepBound (step : Option Node) :
    Carries host id (evalStepBound home frame step)
      (Evaluation.evalStepBound away (host.frame frame) step) := by
  cases step with
  | none => exact pure 1
  | some node => exact evalBound carried .step node

theorem evalCondition (condition : Node) :
    Carries host id (evalCondition home frame condition)
      (Evaluation.evalCondition away (host.frame frame) condition) :=
  (carried.evaluate condition frame).bind isTruthy

omit carried in
theorem runItems (value : Value) :
    Carries host host.values (Evaluation.check frame span fun heap => heap.items value)
      (Evaluation.check (host.frame frame) span fun heap => heap.items (host.value value)) :=
  check fun _ _ => Surroundings.items_heap value

section Turns

variable {pass pass' : Action Pass} (passes : Carries host host.pass pass pass')
include passes

omit carried in
theorem countedTurn (counter : String) (last step current : Int64) :
    Carries host (host.turn id) (countedTurn frame counter last step pass current)
      (Evaluation.countedTurn (host.frame frame) counter last step pass' current) := by
  refine ite (fun _ => ?_) fun _ => pure Turn.finished
  refine (bindName counter (.int current)).bind fun _ => passes.bind fun pass => ?_
  have next := @pure host _ _ (host.turn id)
    (Turn.made pass (Number.fit? (current.toInt + step.toInt)))
  simp only [Host.turn, Option.map_id] at next
  exact next

omit carried in
theorem eachTurn (name : String) (items : List Value) :
    Carries host (host.turn host.values) (eachTurn frame name pass items)
      (Evaluation.eachTurn (host.frame frame) name pass' (host.values items)) := by
  cases items with
  | nil => exact pure Turn.finished
  | cons item rest =>
      exact (bindName name item).bind fun _ => passes.bind fun pass =>
        pure (Turn.made pass (some rest))

theorem whileTurn (condition : Node) (state : Unit) :
    Carries host (host.turn id)
      (whileTurn (Evaluation.evalCondition home frame condition) pass state)
      (Evaluation.whileTurn (Evaluation.evalCondition away (host.frame frame) condition) pass'
        state) :=
  (evalCondition carried condition).bind fun _ =>
    ite (fun _ => passes.bind fun pass => pure (Turn.made pass (some ())))
      fun _ => pure Turn.finished

theorem doWhileTurn (condition : Node) (state : Unit) :
    Carries host (host.turn id)
      (doWhileTurn (Evaluation.evalCondition home frame condition) pass state)
      (Evaluation.doWhileTurn (Evaluation.evalCondition away (host.frame frame) condition) pass'
        state) := by
  refine passes.bind fun pass => ?_
  have tested : ∀ pass : Pass, Carries host (host.turn id)
      (Evaluation.evalCondition home frame condition >>= fun holds =>
        if holds = true then Pure.pure (Turn.made pass (some ()))
        else Pure.pure (Turn.made pass none))
      (Evaluation.evalCondition away (host.frame frame) condition >>= fun holds =>
        if holds = true then Pure.pure (Turn.made (host.pass pass) (some ()))
        else Pure.pure (Turn.made (host.pass pass) none)) :=
    fun pass => (evalCondition carried condition).bind fun _ =>
      ite (fun _ => pure (Turn.made pass (some ()))) fun _ => pure (Turn.made pass none)
  cases pass with
  | completed value => exact tested (.completed value)
  | skipped => exact tested .skipped
  | left => exact pure (Turn.made .left none)

omit carried in
theorem endlessTurn (state : Unit) :
    Carries host (host.turn id) (endlessTurn pass state) (Evaluation.endlessTurn pass' state) :=
  passes.bind fun pass => pure (Turn.made pass (some ()))

theorem runLoop (fuel : Nat) (header : LoopHeader Node) :
    Carries host host.values (runLoop home fuel frame header pass)
      (Evaluation.runLoop away fuel (host.frame frame) header pass') := by
  cases header with
  | counted counter first last step =>
      refine (evalBound carried .start first).bind fun first => ?_
      refine (evalBound carried .stop last).bind fun last => ?_
      refine (evalStepBound carried step).bind fun step => ?_
      exact takeTurns (countedTurn passes counter last step) fuel first []
  | each name node =>
      refine (carried.evaluate node frame).bind fun value => (runItems value).bind fun items => ?_
      exact takeTurns (eachTurn passes name) fuel items []
  | whileTrue condition => exact takeTurns (whileTurn carried passes condition) fuel () []
  | doWhile condition => exact takeTurns (doWhileTurn carried passes condition) fuel () []
  | endless => exact takeTurns (endlessTurn passes) fuel () []

end Turns

theorem evalLoop (fuel : Nat) (label : Option String) (header : LoopHeader Node) (body : Node)
    (block : Bool) :
    Carries host host.value (evalLoop home fuel frame label header body block)
      (Evaluation.evalLoop away fuel (host.frame frame) label header body block) := by
  have passes : Carries host host.pass (runPass home frame label body)
      (runPass away (host.frame frame) label body) :=
    answering (carried.evaluate body frame)
  refine (runLoop carried passes fuel header).bind fun values => ?_
  exact ite (fun _ => pure Value.nothing) fun _ => newList values

/-! ## Functions and classes -/

omit carried in
theorem evalFunction (name : Option String) (required : List String)
    (optional : List (String × Node)) (body : Node) (arrow : Bool) :
    Carries host host.value (evalFunction frame name required optional body arrow)
      (Evaluation.evalFunction (host.frame frame) name required optional body arrow) := by
  let defined : Function :=
    ⟨name.getD anonymous, required, optional, body, arrow, frame.scope, frame.document⟩
  have made : Carries host host.function
      (Evaluation.create fun heap => heap.newFunction defined)
      (Evaluation.create fun heap => heap.newFunction (host.placeFunction defined)) :=
    create (fun heap _ => Surroundings.newFunction_heap heap defined)
      fun _ stocked => ⟨stocked.1, stocked.2⟩
  refine made.bind fun function => ?_
  cases name with
  | none => exact pure (Value.function function)
  | some name =>
      exact (bindName name (.function function)).bind fun _ => pure (Value.function function)

theorem evalParent (name : String) (parent : Option Node) :
    Carries host (Option.map host.constructor) (evalParent home frame name parent)
      (Evaluation.evalParent away (host.frame frame) name parent) := by
  cases parent with
  | none => exact pure none
  | some node =>
      refine (carried.evaluate node frame).bind fun value => ?_
      cases value with
      | constructor parent => exact pure (some parent)
      | _ => exact raiseTyped _ (.cannotInherit name)

theorem runClassBody (name : String) (body : Node) :
    Carries host host.scope (runClassBody home frame span name body)
      (Evaluation.runClassBody away (host.frame frame) span name body) := by
  refine (openScope .empty frame.scope).bind fun scope => ?_
  let inside : Frame := ⟨frame.enter s!"<class {name}>" span, scope, none, frame.document⟩
  have ran : Carries host host.value (Evaluation.contain inside (home.eval body inside))
      (Evaluation.contain (host.frame inside) (away.eval body (host.frame inside))) :=
    contain (carried.evaluate body inside)
  exact ran.bind fun _ => pure scope

theorem evalClass (name : String) (parent : Option Node) (body : Node) :
    Carries host host.value (evalClass home frame span name parent body)
      (Evaluation.evalClass away (host.frame frame) span name parent body) := by
  refine (evalParent carried name parent).bind fun parent => ?_
  refine (runClassBody carried name body).bind fun scope => ?_
  have made : Carries host host.constructor
      (Evaluation.create fun heap =>
        heap.newClass (heap.extendClass name (heap.table scope.inner) parent))
      (Evaluation.create fun heap =>
        heap.newClass (heap.extendClass name (heap.table (host.scope scope).inner)
          (parent.map host.constructor))) := by
    refine create (fun heap stocked => ?_) fun _ stocked => ⟨stocked.1, stocked.2⟩
    have members := Surroundings.table_heap stocked scope.inner
    change (host.heap heap).newClass ((host.heap heap).extendClass name
      ((host.heap heap).table (host.table scope.inner)) (parent.map host.constructor)) = _
    rw [members, Surroundings.extendClass_heap, Surroundings.newClass_heap]
  refine made.bind fun made => ?_
  exact (bindName name (.constructor made)).bind fun _ => pure (Value.constructor made)

theorem bindOptional (optional : List (String × Node)) (arguments : List (Option Value)) :
    Carries host id (bindOptional home frame optional arguments)
      (Evaluation.bindOptional away (host.frame frame) optional (host.given arguments)) := by
  induction optional generalizing arguments with
  | nil => exact pure ()
  | cons entry rest ih =>
      obtain ⟨parameter, node⟩ := entry
      have defaulted : ∀ arguments : List (Option Value), Carries host id
          (home.eval node frame >>= fun value =>
            Evaluation.bindName frame parameter value >>= fun _ =>
              Evaluation.bindOptional home frame rest arguments)
          (away.eval node (host.frame frame) >>= fun value =>
            Evaluation.bindName (host.frame frame) parameter value >>= fun _ =>
              Evaluation.bindOptional away (host.frame frame) rest (host.given arguments)) :=
        fun arguments => (carried.evaluate node frame).bind fun value =>
          (bindName parameter value).bind fun _ => ih arguments
      match arguments with
      | some value :: given => exact (bindName parameter value).bind fun _ => ih given
      | none :: given => exact defaulted given
      | [] => exact defaulted []

end Forms

/-! ## Calls -/

section Calls

variable {host : Host} {home away : Evaluator} (carried : home.Carried host away)
  {site : CallSite}

theorem bindRequired {frame : Frame} (function : Function) (required : List String)
    (arguments : List (Option Value)) :
    Carries host host.given (bindRequired site frame function required arguments)
      (Evaluation.bindRequired (host.site site) (host.frame frame) (host.placeFunction function)
        required (host.given arguments)) := by
  induction required generalizing arguments with
  | nil => exact pure arguments
  | cons parameter parameters ih =>
      match arguments with
      | some value :: rest => exact (bindName parameter value).bind fun _ => ih rest
      | none :: rest => exact raise _
      | [] => exact raise _

include carried

theorem enterFunction (function : Function) (arguments : List (Option Value)) :
    Carries host host.value (enterFunction home function arguments site)
      (Evaluation.enterFunction away (host.placeFunction function) (host.given arguments)
        (host.site site)) := by
  refine (openScope .empty function.scope).bind fun scope => ?_
  let inside := calleeFrame function site scope
  refine (bindRequired function function.required arguments).bind fun rest => ?_
  refine (bindOptional carried function.optional rest).bind fun _ => ?_
  have ran : Carries host host.value (evalBody home inside function)
      (evalBody away (host.frame inside) (host.placeFunction function)) := by
    refine (carried.evaluate function.body inside).bind fun value => ?_
    have arrow : (host.placeFunction function).arrow = function.arrow := rfl
    rw [arrow]
    cases function.arrow with
    | true => exact pure value
    | false => exact pure Value.nothing
  exact catchReturn ran

theorem callFunction (settings : Settings) (id : Data.FunctionId)
    (arguments : List (Option Value)) :
    Carries host host.value (callFunction home settings id arguments site)
      (Evaluation.callFunction away settings (host.function id) (host.given arguments)
        (host.site site)) := by
  have defined : Carries host host.placeFunction
      (Evaluation.readHeap fun heap => heap.function id)
      (Evaluation.readHeap fun heap => heap.function (host.function id)) :=
    readHeap fun _ _ => Surroundings.function_heap id
  refine defined.bind fun function => ?_
  have arity : arityFault? (host.placeFunction function) (host.given arguments).length =
      arityFault? function arguments.length := by
    rw [Surroundings.given, List.length_map]
    rfl
  rw [arity]
  cases arityFault? function arguments.length with
  | some fault => exact raise fault
  | none => exact withinCall (enterFunction carried function arguments)

omit carried in
theorem callBuiltin (settings : Settings) (id : Data.BuiltinId)
    (arguments : List (Option Value)) :
    Carries host host.value (callBuiltin settings id arguments site)
      (Evaluation.callBuiltin settings (host.builtin id) (host.given arguments)
        (host.site site)) := by
  have defined : Carries host host.placeBuiltin
      (Evaluation.readHeap fun heap => heap.builtin id)
      (Evaluation.readHeap fun heap => heap.builtin (host.builtin id)) :=
    readHeap fun _ stocked => Surroundings.builtin_heap stocked id
  refine defined.bind fun builtin => ?_
  have bound : Carries host host.arguments
      (Evaluation.check site.frame site.span fun _ => builtin.bind arguments)
      (Evaluation.check (host.site site).frame (host.site site).span fun _ =>
        (host.placeBuiltin builtin).bind (host.given arguments)) :=
    check fun _ _ => Surroundings.bind_builtin builtin arguments
  refine bound.bind fun given => ?_
  let call : BuiltinCall := ⟨builtin.name, builtinFrame builtin site, site⟩
  have frames : builtinFrame (host.placeBuiltin builtin) (host.site site) =
      host.frame (builtinFrame builtin site) := by
    unfold builtinFrame
    have inCaller : (host.placeBuiltin builtin).inCallerFrame = builtin.inCallerFrame := rfl
    rw [inCaller]
    split <;> rfl
  have ran := @runOperation host call builtin.operation given
  rw [frames]
  exact withinCall ran

theorem instantiate (definition : ClassId) (arguments : List (Option Value)) :
    Carries host host.value (instantiate home definition arguments site)
      (Evaluation.instantiate away (host.constructor definition) (host.given arguments)
        (host.site site)) := by
  have made : Carries host host.object (newInstance definition) (newInstance (host.constructor definition)) := by
    refine create (fun heap _ => ?_) fun _ stocked => ⟨stocked.1, stocked.2⟩
    rw [Surroundings.constructor_heap, Surroundings.instanceAttributes_heap]
    exact Surroundings.newObject_heap heap
      ⟨definition, heap.instanceAttributes (heap.constructor definition)⟩
  refine made.bind fun object => ?_
  have found : Carries host (Option.map host.value)
      (Evaluation.readHeap fun heap => heap.attribute? object initializer)
      (Evaluation.readHeap fun heap => heap.attribute? (host.object object) initializer) :=
    readHeap fun _ _ => Surroundings.attribute?_heap object initializer
  refine found.bind fun member => ?_
  cases member with
  | some member =>
      exact (carried.call member arguments site).bind fun _ => pure (Value.object object)
  | none =>
      have empty : (host.given arguments).isEmpty = arguments.isEmpty := List.isEmpty_map
      have count : (host.given arguments).length = arguments.length := List.length_map _
      have named : Carries host id
          (Evaluation.readHeap fun heap => (heap.constructor definition).name)
          (Evaluation.readHeap fun heap => (heap.constructor (host.constructor definition)).name) := by
        refine readHeap fun heap _ => ?_
        rw [Surroundings.constructor_heap]
        rfl
      simp only [Option.map_none]
      rw [empty, count]
      exact ite (fun _ => pure (Value.object object)) fun _ => named.bind fun _ => raise _

omit carried in
theorem callSequence (sequence : Value) (arguments : List (Option Value)) :
    Carries host host.value (callSequence sequence arguments site)
      (Evaluation.callSequence (host.value sequence) (host.given arguments)
        (host.site site)) := by
  have refused : Carries host host.value
      (Evaluation.typeName sequence >>= fun type =>
        Evaluation.raise site.frame site.span (.indexArguments type))
      (Evaluation.typeName (host.value sequence) >>= fun type =>
        Evaluation.raise (host.frame site.frame) site.span (.indexArguments type)) :=
    raiseTyped sequence .indexArguments
  have found : ∀ index, Carries host host.value
      (Evaluation.check site.frame site.span fun heap => heap.element sequence index)
      (Evaluation.check (host.frame site.frame) site.span fun heap =>
        heap.element (host.value sequence) (host.value index)) :=
    fun index => check fun _ _ => Surroundings.element_heap sequence index
  match arguments with
  | [some index] => exact found index
  | [] => exact refused
  | [none] => exact refused
  | some _ :: _ :: _ => exact refused
  | none :: _ :: _ => exact refused

theorem callValue (settings : Settings) (callee : Value) (arguments : List (Option Value)) :
    Carries host host.value (callValue home settings callee arguments site)
      (Evaluation.callValue away settings (host.value callee) (host.given arguments)
        (host.site site)) := by
  cases callee with
  | function id => exact callFunction carried settings id arguments
  | method id receiver =>
      exact callFunction carried settings id (some (.object receiver) :: arguments)
  | builtin id => exact callBuiltin settings id arguments
  | constructor id => exact instantiate carried id arguments
  | list id => exact callSequence (.list id) arguments
  | text s => exact callSequence (.text s) arguments
  | _ => exact raiseTyped _ .notCallable

end Calls

section Forms

variable {host : Host} {home away : Evaluator} (carried : home.Carried host away)
  {frame : Frame} {span : Span}
include carried

theorem evalArgument (node : Node) :
    Carries host (Option.map host.value) (evalArgument home frame node)
      (Evaluation.evalArgument away (host.frame frame) node) := by
  unfold Evaluation.evalArgument
  split
  · exact pure none
  · exact (carried.evaluate node frame).bind fun value => pure (some value)

theorem evalArguments (nodes : List Node) :
    Carries host host.given (evalArguments home frame nodes)
      (Evaluation.evalArguments away (host.frame frame) nodes) := by
  induction nodes with
  | nil => exact pure []
  | cons node rest ih =>
      exact (evalArgument carried node).bind fun value => ih.bind fun values =>
        pure (value :: values)

theorem evalCall (settings : Settings) (callee : Node) (arguments : List Node) :
    Carries host host.value (evalCall home settings frame span callee arguments)
      (Evaluation.evalCall away settings (host.frame frame) span callee arguments) := by
  refine (carried.evaluate callee frame).bind fun value => ?_
  refine (evalArguments carried arguments).bind fun values => ?_
  exact @callValue host home away carried ⟨frame, span, arguments.map (·.span)⟩ settings value
    values

/-! ## Modules -/

omit carried in
theorem newExports :
    Carries host host.exports (Evaluation.create fun heap => heap.newExports)
      (Evaluation.create fun heap => heap.newExports) :=
  create (fun heap _ => Surroundings.newExports_heap heap) fun _ stocked => ⟨stocked.1, stocked.2⟩

theorem moduleIn (trail : Trail) (document : Document) (program : Node) :
    Carries host host.bindings (moduleIn home trail document program)
      (Evaluation.moduleIn away (host.trail.graft trail) document program) := by
  refine (newScope .empty [preludeTable]).bind fun scope => newExports.bind fun exports => ?_
  have ran : Carries host host.value
      (Evaluation.contain ⟨trail, scope, some exports, document⟩
        (home.eval program ⟨trail, scope, some exports, document⟩))
      (Evaluation.contain (host.frame ⟨trail, scope, some exports, document⟩)
        (away.eval program (host.frame ⟨trail, scope, some exports, document⟩))) :=
    contain (carried.evaluate program _)
  have exported : Carries host host.bindings
      (Evaluation.readHeap fun heap => heap.exported exports)
      (Evaluation.readHeap fun heap => heap.exported (host.exports exports)) :=
    readHeap fun _ _ => Surroundings.exported_heap exports
  exact ran.bind fun _ => exported

omit carried in
theorem files {place : α → β} {next : Machine → Action α} {next' : Machine → Action β}
    (rest : ∀ machine, Carries host place (next machine) (next' (host.machine machine))) :
    Carries host place (get >>= next) (get >>= next') := by
  have read : Carries host host.machine (MonadState.get : Action Machine) MonadState.get :=
    ⟨fun _ _ => rfl, fun _ stocked => stocked⟩
  exact read.bind rest

theorem loadModule (settings : Settings) (name path : String) :
    Carries host host.bindings (loadModule home settings frame span name path)
      (Evaluation.loadModule away settings (host.frame frame) span name path) := by
  refine files fun machine => ?_
  have same : (host.machine machine).files = machine.files := rfl
  rw [same]
  cases machine.files.readText path with
  | error error => exact raise _
  | ok text =>
      simp only
      cases (Grammar.readProgram {} text).1 with
      | error error => exact ⟨fun _ _ => rfl, fun _ stocked => stocked⟩
      | ok program =>
          have ran := moduleIn carried (frame.enter s!"<module {name}>" span) ⟨path, text⟩ program
          simp only [runModule, moduleBody_eq]
          exact withinCall ran

omit carried in
theorem loadNative (name : String) :
    Carries host host.bindings (loadNative frame span name)
      (Evaluation.loadNative (host.frame frame) span name) where
  same machine stocked := by
    have made : (host.machine machine).heap.newNative? name =
        (machine.heap.newNative? name).map fun made => (host.bindings made.1, host.heap made.2) :=
      Surroundings.newNative?_heap stocked name
    unfold Evaluation.loadNative
    rw [made]
    cases machine.heap.newNative? name <;> rfl
  stocked machine stocked := by
    unfold Evaluation.loadNative
    cases found : machine.heap.newNative? name with
    | none => exact stocked
    | some made => exact stocked.newNative? found

theorem evalImport (settings : Settings) (name : String) (rename : Option String) :
    Carries host host.value (evalImport home settings frame span name rename)
      (Evaluation.evalImport away settings (host.frame frame) span name rename) := by
  have found : Carries host id (findModule? settings name) (findModule? settings name) :=
    ⟨fun _ _ => rfl, fun _ stocked => stocked⟩
  have library : ∀ exports : Bindings Value, Carries host host.value
      (Evaluation.create (fun heap => heap.newLibrary ⟨name, exports⟩) >>= fun library =>
        Evaluation.bindName frame (rename.getD name) (.library library) >>= fun _ =>
          Pure.pure (Value.library library))
      (Evaluation.create (fun heap => heap.newLibrary ⟨name, host.bindings exports⟩) >>=
        fun library =>
          Evaluation.bindName (host.frame frame) (rename.getD name) (.library library) >>=
            fun _ => Pure.pure (Value.library library)) := by
    intro exports
    have made : Carries host host.library
        (Evaluation.create fun heap => heap.newLibrary ⟨name, exports⟩)
        (Evaluation.create fun heap => heap.newLibrary ⟨name, host.bindings exports⟩) :=
      create (fun heap _ => Surroundings.newLibrary_heap heap ⟨name, exports⟩)
        fun _ stocked => ⟨stocked.1, stocked.2⟩
    exact made.bind fun library => (bindName _ (.library library)).bind fun _ =>
      pure (Value.library library)
  refine found.bind fun path => ?_
  cases path with
  | some path => exact (loadModule carried settings name path).bind library
  | none => exact (loadNative name).bind library

theorem evalExport (node : Node) (name : String) :
    Carries host host.value (evalExport home frame node name)
      (Evaluation.evalExport away (host.frame frame) node name) := by
  refine (carried.evaluate node frame).bind fun value => ?_
  have kept : (host.frame frame).exports = frame.exports.map host.exports := rfl
  rw [kept]
  cases frame.exports with
  | none => exact pure value
  | some exports =>
      have added : Carries host id
          (Evaluation.changeHeap fun heap => heap.addExport exports name value)
          (Evaluation.changeHeap fun heap =>
            heap.addExport (host.exports exports) name (host.value value)) :=
        changeHeap (fun _ _ => Surroundings.addExport_heap exports name value)
          fun _ stocked => ⟨stocked.1, stocked.2⟩
      exact added.bind fun _ => pure value

/-! ## Reading and writing -/

theorem evalTarget (transfer : Data.Transfer) (node : Node) :
    Carries host id (evalTarget home frame transfer node)
      (Evaluation.evalTarget away (host.frame frame) transfer node) := by
  refine (carried.evaluate node frame).bind fun value => ?_
  cases value with
  | text name => exact pure name
  | _ => exact raiseTyped _ (.transferTarget transfer)

theorem evalLine (line : Option Node) :
    Carries host id (evalLine home frame line)
      (Evaluation.evalLine away (host.frame frame) line) := by
  cases line with
  | none => exact pure none
  | some node =>
      refine (carried.evaluate node frame).bind fun value => ?_
      cases value with
      | int n => exact ite (fun _ => pure (some n.toInt.toNat)) fun _ => raise _
      | _ => exact raiseTyped _ .lineType

theorem evalWrite (settings : Settings) (node : Node) (overwrite : Bool) (target : Node)
    (line : Option Node) :
    Carries host host.value (evalWrite home settings frame span node overwrite target line)
      (Evaluation.evalWrite away settings (host.frame frame) span node overwrite target line) := by
  refine (carried.evaluate node frame).bind fun value => (display value).bind fun text => ?_
  refine (evalTarget carried .write target).bind fun target => ?_
  refine (evalLine carried line).bind fun line => ?_
  refine ite (fun _ => ?_) fun _ => ?_
  · exact (printText _).bind fun _ => pure (Value.text text)
  · exact (writeFile settings target text overwrite line).bind fun _ => pure (Value.text text)

omit carried in
theorem keepText (name : Option String) (text : String) :
    Carries host host.value (keepText frame name text)
      (Evaluation.keepText (host.frame frame) name text) := by
  cases name with
  | none => exact pure (Value.text text)
  | some name => exact (bindName name (.text text)).bind fun _ => pure (Value.text text)

theorem evalRead (settings : Settings) (target : Node) (name : Option String)
    (line : Option Node) :
    Carries host host.value (evalRead home settings frame span target name line)
      (Evaluation.evalRead away settings (host.frame frame) span target name line) := by
  refine (evalTarget carried .read target).bind fun target => ?_
  refine (evalLine carried line).bind fun line => ?_
  refine ite (fun _ => ?_) fun _ => ?_
  · exact readLine.bind (keepText name)
  · exact (readFile settings target line).bind (keepText name)

end Forms

end Carries

/-! ## Tasks -/

/-- Every form of a program does in its surroundings what it does at home. -/
theorem evalNode_carries {host : Host} {home away : Evaluator} (carried : home.Carried host away)
    (settings : Settings) (fuel : Nat) (node : Node) (frame : Frame) :
    Carries host host.value (evalNode settings fuel home node frame)
      (evalNode settings fuel away node (host.frame frame)) := by
  unfold evalNode
  split
  · rename_i literal _
    cases literal <;> exact .pure _
  · exact .pure (Value.text _)
  · exact .evalList carried _
  · exact .lookUp _
  · exact .evalInspect _
  · exact .pure Value.nothing
  · exact .evalAssign carried _ _ _
  · exact .evalDelete _
  · exact .evalBinary carried _ _ _
  · exact .evalComparison carried _ _
  · exact .evalUnary carried _ _
  · exact .evalFallback carried _
  · exact .evalConditional carried _ _ _
  · exact .evalLoop carried fuel _ _ _ _
  · exact .evalFunction _ _ _ _ _
  · exact .evalClass carried _ _ _
  · exact .evalCall carried settings _ _
  · exact .evalAttribute carried _ _
  · exact .evalReturn carried _
  · exact .throwSignal (.jumped .leave _ _)
  · exact .throwSignal (.jumped .next _ _)
  · exact .evalImport carried settings _ _
  · exact .evalExport carried _ _
  · exact .evalWrite carried settings _ _ _ _
  · exact .evalRead carried settings _ _ _
  · exact .evalAssertion carried _ _
  · exact .evalSequence carried _ .nothing

/-- Evaluation does in its surroundings what it does at home. -/
theorem perform_carried (host : Host) (settings : Settings) (fuel : Nat) :
    (perform settings fuel).Carried host (perform settings fuel) := by
  induction fuel with
  | zero => exact ⟨fun _ _ => .outOfFuel, fun _ _ _ => .outOfFuel⟩
  | succ fuel ih =>
      constructor
      · intro node frame
        exact evalNode_carries ih settings fuel node frame
      · intro callee arguments site
        exact .callValue ih settings callee arguments

end Evaluation
end Scripting
