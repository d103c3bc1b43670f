import Scripting.Evaluation.Perform
import Scripting.Proofs.Elementary

namespace Scripting
namespace Evaluation

/-!
How evaluation is composed.

Performing a task is a sequence of elementary actions, changes of scope tables,
new scopes, further tasks, and actions run inside calls, bodies and loops.  This
is said here once and for all, as an inductive predicate with one case for each
of these, and every form of a program is shown to be composed in this way.  What
is to be known of all runs is then proved by induction on the predicate.

The predicate carries the tables that an action may change.  A frame lends out its
innermost table, and a new scope adds its own; nothing else is ever added, so the
list says which tables are not touched.  As with elementary actions, two actions
are described together, here in terms of two evaluators as well.
-/

open Data (Bindings Fault Function Heap Scope TableId Value)
open Program (AssignOp BinaryOp CompareOp LoopHeader Node Target)
open Source (Document Position Span)

/-- Change the bindings of one scope table. -/
def changeTable (id : TableId) (change : Bindings Value → Bindings Value) : Action Unit :=
  changeHeap fun heap => { heap with tables := heap.tables.modify id.index change }

/-- Run an action as a pass of a loop, which answers the jumps that are meant for it. -/
def answering (label : Option String) (action : Action Value) : Action Pass := fun machine =>
  match action machine with
  | .ok value after => .ok (.completed value) after
  | .error (.signal (.jumped jump target place)) after =>
      if isAddressed target label then .ok (passOf jump) after
      else .error (.signal (.jumped jump target place)) after
  | .error interrupt after => .error interrupt after

/-! ## What is left behind -/

theorem finalMachine_contain {α : Type} (frame : Frame) (action : Action α) (machine : Machine) :
    finalMachine (contain frame action machine) = finalMachine (action machine) := by
  unfold contain
  rcases action machine with _ | ⟨_ | _ | _, after⟩ <;> rfl

theorem finalMachine_catchReturn (frame : Frame) (action : Action Value) (machine : Machine) :
    finalMachine (catchReturn frame action machine) = finalMachine (action machine) := by
  unfold catchReturn
  rcases action machine with _ | ⟨_ | ⟨_ | _ | _⟩ | _ | _, after⟩ <;> rfl

theorem finalMachine_answering (label : Option String) (action : Action Value)
    (machine : Machine) :
    finalMachine (answering label action machine) = finalMachine (action machine) := by
  unfold answering
  rcases action machine with _ | ⟨_ | ⟨_ | ⟨jump, target, place⟩ | _⟩ | _ | _, after⟩
  · rfl
  · rfl
  · rfl
  · cases addressed : isAddressed target label <;> simp [addressed, finalMachine]
  · rfl
  · rfl
  · rfl

/-- A call that begins is one level deeper while it runs; at the limit nothing happens. -/
theorem finalMachine_withinCall {α : Type} (settings : Settings) (frame : Frame) (span : Span)
    (action : Action α) (machine : Machine) :
    finalMachine (withinCall settings frame span action machine) =
      if settings.maxDepth ≤ machine.depth then machine
      else
        let after := finalMachine (action { machine with depth := machine.depth + 1 })
        { after with depth := after.depth - 1 } := by
  unfold withinCall
  split
  · rfl
  · cases action { machine with depth := machine.depth + 1 } <;> rfl

/-- A call of a function begins unless the number of its arguments is wrong. -/
theorem callFunction_apply (self : Evaluator) (settings : Settings) (id : Data.FunctionId)
    (arguments : List (Option Value)) (site : CallSite) (machine : Machine) :
    callFunction self settings id arguments site machine =
      match arityFault? (machine.heap.function id) arguments.length with
      | some fault => raise site.frame site.span fault machine
      | none =>
          withinCall settings site.frame site.span
            (enterFunction self (machine.heap.function id) arguments site) machine := by
  unfold callFunction
  rw [bind_apply]
  simp only [readHeap]
  cases arityFault? (machine.heap.function id) arguments.length <;> rfl

/-! ## Composed actions -/

/-- What is asked of the trails of two frames that are compared. -/
structure Comparison where
  alike : Trail → Trail → Prop
  /-- Frames that are entered alike from comparable frames are comparable. -/
  entered : ∀ {caller caller' : Trail} (name : String) (document : Document)
    (position : Position), alike caller caller' →
      alike (.entered name caller document position) (.entered name caller' document position)

/-- Trails that are the same. -/
def Comparison.equal : Comparison where
  alike := Eq
  entered name document position same := by rw [same]

theorem Frame.Parallel.refl (frame : Frame) : frame.Parallel Comparison.equal.alike frame :=
  ⟨rfl, rfl, rfl, rfl⟩

theorem CallSite.Parallel.refl (site : CallSite) : site.Parallel Comparison.equal.alike site :=
  ⟨.refl site.frame, rfl, rfl⟩

/-- Two evaluators that are compared on tasks with comparable frames. -/
structure Pairing extends Comparison where
  settings : Settings
  self : Evaluator
  other : Evaluator

/--
Two actions are composed alike, in terms of two evaluators, and change no scope
tables but those that are listed and those that they make themselves.
-/
inductive Composed (pair : Pairing) :
    List TableId → ∀ {α : Type}, Action α → Action α → Prop
  | elementary {own : List TableId} {α : Type} {action action' : Action α}
      (same : Elementary pair.alike action action') : Composed pair own action action'
  | signal {own : List TableId} {α : Type} (signal : Signal) :
      Composed pair own (throw (.signal signal) : Action α) (throw (.signal signal))
  | outOfFuel {own : List TableId} {α : Type} :
      Composed pair own (throw .outOfFuel : Action α) (throw .outOfFuel)
  | bind {own : List TableId} {α β : Type} {action action' : Action α}
      {next next' : α → Action β} (first : Composed pair own action action')
      (rest : ∀ value, Composed pair own (next value) (next' value)) :
      Composed pair own (action >>= next) (action' >>= next')
  | change {own : List TableId} {id : TableId} (owned : id ∈ own)
      (change : Bindings Value → Bindings Value) :
      Composed pair own (changeTable id change) (changeTable id change)
  | inside {own : List TableId} {β : Type} {bindings : Bindings Value} {outer : List TableId}
      {next next' : Scope → Action β}
      (rest : ∀ scope : Scope, Composed pair (scope.inner :: own) (next scope) (next' scope)) :
      Composed pair own ((create fun heap => heap.newScope bindings outer) >>= next)
        ((create fun heap => heap.newScope bindings outer) >>= next')
  | evaluate {own : List TableId} {frame frame' : Frame} (node : Node)
      (parallel : frame.Parallel pair.alike frame') (owned : frame.scope.inner ∈ own) :
      Composed pair own (pair.self.eval node frame) (pair.other.eval node frame')
  | call {own : List TableId} {site site' : CallSite} (callee : Value)
      (arguments : List (Option Value)) (parallel : site.Parallel pair.alike site') :
      Composed pair own (pair.self (.call callee arguments site))
        (pair.other (.call callee arguments site'))
  | withinCall {own : List TableId} {α : Type} {frame frame' : Frame} {span : Span}
      {action action' : Action α} (parallel : frame.Parallel pair.alike frame')
      (body : Composed pair own action action') :
      Composed pair own (withinCall pair.settings frame span action)
        (withinCall pair.settings frame' span action')
  | contain {own : List TableId} {α : Type} {frame frame' : Frame} {action action' : Action α}
      (parallel : frame.Parallel pair.alike frame') (body : Composed pair own action action') :
      Composed pair own (contain frame action) (contain frame' action')
  | catchReturn {own : List TableId} {frame frame' : Frame} {action action' : Action Value}
      (parallel : frame.Parallel pair.alike frame') (body : Composed pair own action action') :
      Composed pair own (catchReturn frame action) (catchReturn frame' action')
  | answering {own : List TableId} {action action' : Action Value} (label : Option String)
      (body : Composed pair own action action') :
      Composed pair own (answering label action) (answering label action')

variable {pair : Pairing} {own : List TableId} {frame frame' : Frame} {α β : Type}

theorem Frame.Parallel.enter {comparison : Comparison}
    (parallel : frame.Parallel comparison.alike frame') (name : String) (span : Span) :
    comparison.alike (frame.enter name span) (frame'.enter name span) := by
  unfold Frame.enter
  rw [parallel.document]
  exact comparison.entered name frame.document span.start parallel.trail

/-- The call of a function of the language from parallel sites. -/
theorem CallSite.Parallel.builtinCall {comparison : Comparison} {site site' : CallSite}
    (parallel : site.Parallel comparison.alike site') (builtin : Data.Builtin) :
    BuiltinCall.Parallel comparison.alike ⟨builtin.name, builtinFrame builtin site, site⟩
      ⟨builtin.name, builtinFrame builtin site', site'⟩ := by
  refine ⟨rfl, ?_, parallel⟩
  unfold builtinFrame
  rw [parallel.span]
  split
  · exact parallel.frame
  · exact ⟨parallel.frame.enter builtin.name site.span, parallel.frame.scope, rfl,
      parallel.frame.document⟩

namespace Composed

theorem pure (value : α) : Composed pair own (Pure.pure value : Action α) (Pure.pure value) :=
  .elementary (.pure value)

/-- A choice made alike on both sides. -/
theorem ite {condition : Prop} [Decidable condition] {yes yes' no no' : Action α}
    (positive : condition → Composed pair own yes yes')
    (negative : ¬ condition → Composed pair own no no') :
    Composed pair own (if condition then yes else no) (if condition then yes' else no') := by
  by_cases decided : condition
  · rw [if_pos decided, if_pos decided]
    exact positive decided
  · rw [if_neg decided, if_neg decided]
    exact negative decided

/-- Something that is read off the heap and used further. -/
theorem read {look : Heap → α} {next next' : α → Action β}
    (rest : ∀ value, Composed pair own (next value) (next' value)) :
    Composed pair own (readHeap look >>= next) (readHeap look >>= next') :=
  .bind (.elementary (.readHeap look)) rest

theorem raise (parallel : frame.Parallel pair.alike frame') (span : Span) (fault : Fault) :
    Composed pair own (raise frame span fault : Action α) (Evaluation.raise frame' span fault) :=
  .elementary (.raise parallel span fault)

/-- A fault that names the type of a value. -/
theorem raiseTyped (parallel : frame.Parallel pair.alike frame') (span : Span) (value : Value)
    (fault : String → Fault) :
    Composed pair own (do Evaluation.raise frame span (fault (← typeName value)) : Action α)
      (do Evaluation.raise frame' span (fault (← typeName value))) :=
  .read fun type => raise parallel span (fault type)

theorem bindName (parallel : frame.Parallel pair.alike frame')
    (owned : frame.scope.inner ∈ own) (name : String) (value : Value) :
    Composed pair own (bindName frame name value) (Evaluation.bindName frame' name value) := by
  unfold Evaluation.bindName
  rw [parallel.scope]
  exact .change owned (·.insert name value)

/-! ## Names, literals, operators and assignments -/

section Forms

variable (parallel : frame.Parallel pair.alike frame') (owned : frame.scope.inner ∈ own)
include parallel owned

theorem evalAll (nodes : List Node) :
    Composed pair own (evalAll pair.self frame nodes)
      (Evaluation.evalAll pair.other frame' nodes) := by
  induction nodes with
  | nil => exact pure []
  | cons node rest ih =>
      exact .bind (.evaluate node parallel owned) fun value => .bind ih fun values => pure _

theorem evalSequence (nodes : List Node) (last : Value) :
    Composed pair own (evalSequence pair.self frame last nodes)
      (Evaluation.evalSequence pair.other frame' last nodes) := by
  induction nodes generalizing last with
  | nil => exact pure last
  | cons node rest ih => exact .bind (.evaluate node parallel owned) fun value => ih value

theorem evalList (elements : List Node) :
    Composed pair own (evalList pair.self frame elements)
      (Evaluation.evalList pair.other frame' elements) :=
  .bind (evalAll parallel owned elements) fun values => .elementary (.newList values)

omit owned in
theorem evalInspect (span : Span) (name : String) :
    Composed pair own (evalInspect frame span name) (Evaluation.evalInspect frame' span name) :=
  .bind (.elementary (.lookUp parallel span name)) fun _ => .read fun _ =>
    .bind (.elementary (.printText parallel span _)) fun _ => pure _

omit owned in
theorem evalStep (current : Value) (step : Node) :
    Composed pair own (evalStep pair.self frame current step)
      (Evaluation.evalStep pair.other frame' current step) := by
  have inside : ∀ attributes, Composed pair own
      (Evaluation.evalStep.evalInside pair.self frame step attributes)
      (Evaluation.evalStep.evalInside pair.other frame' step attributes) := by
    intro attributes
    unfold Evaluation.evalStep.evalInside
    rw [parallel.scope]
    refine .inside fun scope => .evaluate step ?_ List.mem_cons_self
    exact ⟨parallel.trail, rfl, rfl, parallel.document⟩
  refine .read fun attributes => ?_
  cases step.headName? with
  | some name =>
      refine ite (fun _ => inside attributes) fun _ => ?_
      exact raiseTyped parallel step.span current (.noAttribute · name)
  | none => exact inside attributes

omit owned in
theorem evalSteps (current : Value) (steps : List Node) :
    Composed pair own (evalSteps pair.self frame current steps)
      (Evaluation.evalSteps pair.other frame' current steps) := by
  induction steps generalizing current with
  | nil => exact pure current
  | cons step rest ih => exact .bind (evalStep parallel current step) fun next => ih next

theorem evalAttribute (base : Node) (steps : List Node) :
    Composed pair own (evalAttribute pair.self frame base steps)
      (Evaluation.evalAttribute pair.other frame' base steps) :=
  .bind (.evaluate base parallel owned) fun value => evalSteps parallel value steps

omit owned in
theorem applyBinary (span : Span) (op : BinaryOp) (left right : Value) :
    Composed pair own (applyBinary frame span op left right)
      (Evaluation.applyBinary frame' span op left right) :=
  .bind (.elementary (.check parallel span _)) fun product => .elementary (.realize product)

theorem evalBinary (span : Span) (op : BinaryOp) (left right : Node) :
    Composed pair own (evalBinary pair.self frame span op left right)
      (Evaluation.evalBinary pair.other frame' span op left right) := by
  refine .bind (.evaluate left parallel owned) fun first => .read fun decided => ?_
  refine ite (fun _ => pure _) fun _ => ite (fun _ => pure _) fun _ => ?_
  exact .bind (.evaluate right parallel owned) fun second =>
    applyBinary parallel span op first second

theorem evalLinks (span : Span) (left : Value) (links : List (CompareOp × Node)) :
    Composed pair own (evalLinks pair.self frame span left links)
      (Evaluation.evalLinks pair.other frame' span left links) := by
  induction links generalizing left with
  | nil => exact pure _
  | cons link rest ih =>
      refine .bind (.evaluate link.2 parallel owned) fun right => ?_
      refine .bind (.elementary (.check parallel span _)) fun holds => ?_
      exact ite (fun _ => ih right) fun _ => pure _

theorem evalFallback (operands : List Node) :
    Composed pair own (evalFallback pair.self frame operands)
      (Evaluation.evalFallback pair.other frame' operands) := by
  induction operands with
  | nil => exact pure _
  | cons operand rest ih =>
      cases rest with
      | nil => exact .evaluate operand parallel owned
      | cons next others =>
          refine .bind (.evaluate operand parallel owned) fun value => ?_
          exact ite (fun _ => ih) fun _ => pure _

omit owned in
theorem combine (span : Span) (op : AssignOp) {current current' : Action Value}
    (stored : Composed pair own current current') (value : Value) :
    Composed pair own (combine frame span op current value)
      (Evaluation.combine frame' span op current' value) := by
  cases op with
  | set => exact pure value
  | compound binary => exact .bind stored fun old => applyBinary parallel span binary old value

theorem assignName (span : Span) (name : String) (op : AssignOp) (value : Value) :
    Composed pair own (assignName frame span name op value)
      (Evaluation.assignName frame' span name op value) := by
  have stored : Composed pair own (lookUp frame span name) (lookUp frame' span name) :=
    .elementary (.lookUp parallel span name)
  refine .bind (combine parallel span op stored value) fun assigned => ?_
  exact .bind (bindName parallel owned name assigned) fun _ => pure assigned

omit owned in
theorem assignAttribute (span : Span) (owner : Value) (name : String) (op : AssignOp)
    (value : Value) :
    Composed pair own (assignAttribute frame span owner name op value)
      (Evaluation.assignAttribute frame' span owner name op value) := by
  unfold Evaluation.assignAttribute
  split
  · rename_i id
    have stored : Composed pair own (storedAttribute frame span id name)
        (storedAttribute frame' span id name) := by
      refine .read fun found => ?_
      cases found with
      | some value => exact pure value
      | none => exact raiseTyped parallel span _ (.noAttribute · name)
    refine .bind (combine parallel span op stored value) fun assigned => ?_
    exact .bind (.elementary (.changeHeap fun _ => ⟨rfl, rfl⟩)) fun _ => pure assigned
  · exact raiseTyped parallel span _ (.cannotSetAttribute name)

theorem assignTarget (op : AssignOp) (target : Target Node) (value : Value) :
    Composed pair own (assignTarget pair.self frame op target value)
      (Evaluation.assignTarget pair.other frame' op target value) := by
  unfold Evaluation.assignTarget
  split
  · exact assignName parallel owned target.span target.name op value
  · rename_i node _
    exact .bind (.evaluate node parallel owned) fun owner =>
      assignAttribute parallel target.span owner target.name op value

theorem assignAll (op : AssignOp) (targets : List (Target Node)) (values : List Value) :
    Composed pair own (assignAll pair.self frame op targets values)
      (Evaluation.assignAll pair.other frame' op targets values) := by
  induction targets generalizing values with
  | nil => exact pure []
  | cons target targets ih =>
      cases values with
      | nil => exact pure []
      | cons value values =>
          refine .bind (assignTarget parallel owned op target value) fun assigned => ?_
          exact .bind (ih values) fun others => pure _

theorem evalAssign (span : Span) (targets : List (Target Node)) (op : AssignOp)
    (nodes : List Node) :
    Composed pair own (evalAssign pair.self frame span targets op nodes)
      (Evaluation.evalAssign pair.other frame' span targets op nodes) := by
  refine .bind (evalAll parallel owned nodes) fun values => ?_
  refine ite (fun _ => raise parallel span _) fun _ => ?_
  refine .bind (assignAll parallel owned op targets values) fun assigned => ?_
  split
  · exact pure _
  · exact .elementary (.newList _)

theorem evalDelete (span : Span) (name : String) :
    Composed pair own (evalDelete frame span name) (Evaluation.evalDelete frame' span name) := by
  unfold Evaluation.evalDelete
  rw [parallel.scope]
  refine .read fun found => ?_
  cases found with
  | some value =>
      have erased : Composed pair own (changeTable frame.scope.inner (·.erase name)) _ :=
        .change owned _
      exact .bind erased fun _ => pure value
  | none => exact .elementary (.raiseUndefined parallel span name)

/-! ## Branches and statements that leave the normal order -/

theorem chooseCase (otherwise : Option Node) (cases : List (Node × Node)) :
    Composed pair own (chooseCase pair.self frame otherwise cases)
      (Evaluation.chooseCase pair.other frame' otherwise cases) := by
  induction cases with
  | nil => exact pure otherwise
  | cons branch rest ih =>
      refine .bind (.evaluate branch.1 parallel owned) fun decided => .read fun holds => ?_
      exact ite (fun _ => pure _) fun _ => ih

theorem evalConditional (cases : List (Node × Node)) (otherwise : Option Node) (block : Bool) :
    Composed pair own (evalConditional pair.self frame cases otherwise block)
      (Evaluation.evalConditional pair.other frame' cases otherwise block) := by
  refine .bind (chooseCase parallel owned otherwise cases) fun chosen => ?_
  cases chosen with
  | none => exact pure _
  | some body => exact .bind (.evaluate body parallel owned) fun value => pure _

theorem evalAssertion (span : Span) (condition : Node) (message : Option Node) :
    Composed pair own (evalAssertion pair.self frame span condition message)
      (Evaluation.evalAssertion pair.other frame' span condition message) := by
  have said : Composed pair own (evalMessage pair.self frame message)
      (evalMessage pair.other frame' message) := by
    cases message with
    | none => exact pure none
    | some node => exact .bind (.evaluate node parallel owned) fun value => .read fun _ => pure _
  refine .bind (.evaluate condition parallel owned) fun decided => .read fun holds => ?_
  refine ite (fun _ => pure _) fun _ => ?_
  exact .bind said fun text => raise parallel span _

theorem evalReturn (span : Span) (value : Option Node) :
    Composed pair own (evalReturn pair.self frame span value)
      (Evaluation.evalReturn pair.other frame' span value) := by
  have result : Composed pair own (evalOptional pair.self frame value)
      (evalOptional pair.other frame' value) := by
    cases value with
    | none => exact pure _
    | some node => exact .evaluate node parallel owned
  unfold Evaluation.evalReturn Frame.place
  rw [parallel.document]
  exact .bind result fun result => .signal _

omit owned in
theorem evalJump (span : Span) (jump : Data.Jump) (label : Option String) :
    Composed pair own (evalJump frame span jump label)
      (Evaluation.evalJump frame' span jump label) := by
  unfold Evaluation.evalJump Frame.place
  rw [parallel.document]
  exact .signal _

/-! ## Loops -/

omit parallel owned in
/-- A loop is composed of its turns. -/
theorem takeTurns {σ : Type} {turn turn' : σ → Action (Turn σ)}
    (turns : ∀ state, Composed pair own (turn state) (turn' state)) (fuel : Nat) (state : σ)
    (collected : List Value) :
    Composed pair own (takeTurns turn fuel state collected)
      (Evaluation.takeTurns turn' fuel state collected) := by
  induction fuel generalizing state collected with
  | zero => exact .outOfFuel
  | succ fuel ih =>
      refine .bind (turns state) fun taken => ?_
      rcases taken with _ | ⟨_ | _ | _, _ | next⟩
      · exact pure _
      · exact pure _
      · exact ih next _
      · exact pure _
      · exact ih next _
      · exact pure _
      · exact pure _

theorem evalBound (bound : Data.LoopBound) (node : Node) :
    Composed pair own (evalBound pair.self frame bound node)
      (Evaluation.evalBound pair.other frame' bound node) := by
  refine .bind (.evaluate node parallel owned) fun value => ?_
  split
  · exact pure _
  · exact raiseTyped parallel node.span _ (.loopBound bound)

theorem evalStepBound (step : Option Node) :
    Composed pair own (evalStepBound pair.self frame step)
      (Evaluation.evalStepBound pair.other frame' step) := by
  cases step with
  | none => exact pure _
  | some node => exact evalBound parallel owned .step node

theorem evalCondition (condition : Node) :
    Composed pair own (evalCondition pair.self frame condition)
      (Evaluation.evalCondition pair.other frame' condition) :=
  .bind (.evaluate condition parallel owned) fun _ => .elementary (.readHeap _)

theorem runLoop (fuel : Nat) (header : LoopHeader Node) {pass pass' : Action Pass}
    (passes : Composed pair own pass pass') :
    Composed pair own (runLoop pair.self fuel frame header pass)
      (Evaluation.runLoop pair.other fuel frame' header pass') := by
  cases header with
  | counted counter first last step =>
      refine .bind (evalBound parallel owned .start first) fun first => ?_
      refine .bind (evalBound parallel owned .stop last) fun last => ?_
      refine .bind (evalStepBound parallel owned step) fun step => ?_
      refine takeTurns (fun current => ite (fun _ => ?_) fun _ => pure _) fuel first []
      exact .bind (bindName parallel owned counter _) fun _ => .bind passes fun _ => pure _
  | each name node =>
      refine .bind (.evaluate node parallel owned) fun value => ?_
      refine .bind (.elementary (.check parallel node.span _)) fun items => ?_
      refine takeTurns (fun state => ?_) fuel items []
      cases state with
      | nil => exact pure _
      | cons item rest =>
          exact .bind (bindName parallel owned name item) fun _ => .bind passes fun _ => pure _
  | whileTrue condition =>
      refine takeTurns (fun _ => ?_) fuel () []
      refine .bind (evalCondition parallel owned condition) fun holds => ?_
      exact ite (fun _ => .bind passes fun _ => pure _) fun _ => pure _
  | doWhile condition =>
      refine takeTurns (fun _ => .bind passes fun pass => ?_) fuel () []
      split
      · exact pure _
      · refine .bind (evalCondition parallel owned condition) fun holds => ?_
        exact ite (fun _ => pure _) fun _ => pure _
  | endless => exact takeTurns (fun _ => .bind passes fun _ => pure _) fuel () []

theorem evalLoop (fuel : Nat) (label : Option String) (header : LoopHeader Node) (body : Node)
    (block : Bool) :
    Composed pair own (evalLoop pair.self fuel frame label header body block)
      (Evaluation.evalLoop pair.other fuel frame' label header body block) := by
  have passes : Composed pair own (runPass pair.self frame label body)
      (runPass pair.other frame' label body) :=
    .answering label (.evaluate body parallel owned)
  refine .bind (runLoop parallel owned fuel header passes) fun values => ?_
  exact ite (fun _ => pure _) fun _ => .elementary (.newList values)

/-! ## Functions and classes -/

theorem evalFunction (name : Option String) (required : List String)
    (optional : List (String × Node)) (body : Node) (arrow : Bool) :
    Composed pair own (evalFunction frame name required optional body arrow)
      (Evaluation.evalFunction frame' name required optional body arrow) := by
  unfold Evaluation.evalFunction
  rw [parallel.scope, parallel.document]
  refine .bind (.elementary (.create fun _ => ⟨rfl, rfl⟩)) fun id => ?_
  cases name with
  | some name => exact .bind (bindName parallel owned name _) fun _ => pure _
  | none => exact pure _

omit owned in
theorem runClassBody (span : Span) (name : String) (body : Node) :
    Composed pair own (runClassBody pair.self frame span name body)
      (Evaluation.runClassBody pair.other frame' span name body) := by
  unfold Evaluation.runClassBody
  rw [parallel.scope]
  refine .inside fun scope => ?_
  have inner : Frame.Parallel pair.alike
      ⟨frame.enter s!"<class {name}>" span, scope, none, frame.document⟩
      ⟨frame'.enter s!"<class {name}>" span, scope, none, frame'.document⟩ :=
    ⟨parallel.enter _ span, rfl, rfl, parallel.document⟩
  exact .bind (.contain inner (.evaluate body inner List.mem_cons_self)) fun _ => pure scope

theorem evalClass (span : Span) (name : String) (parent : Option Node) (body : Node) :
    Composed pair own (evalClass pair.self frame span name parent body)
      (Evaluation.evalClass pair.other frame' span name parent body) := by
  have extended : Composed pair own (evalParent pair.self frame name parent)
      (evalParent pair.other frame' name parent) := by
    cases parent with
    | none => exact pure none
    | some node =>
        refine .bind (.evaluate node parallel owned) fun value => ?_
        split
        · exact pure _
        · exact raiseTyped parallel node.span _ (.cannotInherit name)
  refine .bind extended fun parent => ?_
  refine .bind (runClassBody parallel span name body) fun scope => ?_
  refine .bind (.elementary (.create fun _ => ⟨rfl, rfl⟩)) fun id => ?_
  exact .bind (bindName parallel owned name _) fun _ => pure _

theorem bindOptional (optional : List (String × Node)) (arguments : List (Option Value)) :
    Composed pair own (bindOptional pair.self frame optional arguments)
      (Evaluation.bindOptional pair.other frame' optional arguments) := by
  induction optional generalizing arguments with
  | nil => exact pure ()
  | cons entry rest ih =>
      obtain ⟨parameter, node⟩ := entry
      have defaulted : ∀ arguments : List (Option Value), Composed pair own
          (do
            let value ← pair.self.eval node frame
            Evaluation.bindName frame parameter value
            Evaluation.bindOptional pair.self frame rest arguments)
          (do
            let value ← pair.other.eval node frame'
            Evaluation.bindName frame' parameter value
            Evaluation.bindOptional pair.other frame' rest arguments) := fun arguments =>
        .bind (.evaluate node parallel owned) fun value =>
          .bind (bindName parallel owned parameter value) fun _ => ih arguments
      match arguments with
      | some value :: given =>
          exact .bind (bindName parallel owned parameter value) fun _ => ih given
      | none :: given => exact defaulted given
      | [] => exact defaulted []

end Forms

section Calls

variable {site site' : CallSite} (parallel : site.Parallel pair.alike site')
include parallel

theorem bindRequired {frame frame' : Frame} (inner : frame.Parallel pair.alike frame')
    (owned : frame.scope.inner ∈ own) (function : Function) (required : List String)
    (arguments : List (Option Value)) :
    Composed pair own (bindRequired site frame function required arguments)
      (Evaluation.bindRequired site' frame' function required arguments) := by
  induction required generalizing arguments with
  | nil => exact pure arguments
  | cons parameter parameters ih =>
      have missing : Composed pair own
          (Evaluation.raise site.frame site.span
            (.missingArgument .defined function.name parameter) : Action (List (Option Value)))
          (Evaluation.raise site'.frame site'.span
            (.missingArgument .defined function.name parameter)) := by
        rw [parallel.span]
        exact raise parallel.frame site.span _
      match arguments with
      | some value :: rest => exact .bind (bindName inner owned parameter value) fun _ => ih rest
      | none :: rest => exact missing
      | [] => exact missing

theorem enterFunction (function : Function) (arguments : List (Option Value)) :
    Composed pair own (enterFunction pair.self function arguments site)
      (Evaluation.enterFunction pair.other function arguments site') := by
  refine .inside fun scope => ?_
  have inner : (calleeFrame function site scope).Parallel pair.alike
      (calleeFrame function site' scope) := by
    unfold calleeFrame
    rw [parallel.span]
    exact ⟨parallel.frame.enter function.name site.span, rfl, rfl, rfl⟩
  have owned : scope.inner ∈ scope.inner :: own := List.mem_cons_self
  refine .bind (bindRequired parallel inner owned function _ _) fun rest => ?_
  refine .bind (bindOptional inner owned function.optional rest) fun _ => ?_
  exact .catchReturn inner (.bind (.evaluate function.body inner owned) fun value => pure _)

theorem callFunction (id : Data.FunctionId) (arguments : List (Option Value)) :
    Composed pair own (callFunction pair.self pair.settings id arguments site)
      (Evaluation.callFunction pair.other pair.settings id arguments site') := by
  unfold Evaluation.callFunction
  rw [parallel.span]
  refine .read fun function => ?_
  cases arityFault? function arguments.length with
  | some fault => exact raise parallel.frame site.span fault
  | none => exact .withinCall parallel.frame (enterFunction parallel function arguments)

theorem callBuiltin (id : Data.BuiltinId) (arguments : List (Option Value)) :
    Composed pair own (callBuiltin pair.settings id arguments site)
      (Evaluation.callBuiltin pair.settings id arguments site') := by
  unfold Evaluation.callBuiltin
  refine .read fun builtin => ?_
  rw [parallel.span]
  refine .bind (.elementary (.check parallel.frame site.span _)) fun bound => ?_
  exact .withinCall parallel.frame
    (.elementary (.runOperation (parallel.builtinCall builtin) builtin.operation bound))

theorem instantiate (id : Data.ClassId) (arguments : List (Option Value)) :
    Composed pair own (instantiate pair.self id arguments site)
      (Evaluation.instantiate pair.other id arguments site') := by
  unfold Evaluation.instantiate
  rw [parallel.span]
  refine .bind (.elementary (.create fun _ => ⟨rfl, rfl⟩)) fun object => .read fun found => ?_
  cases found with
  | some member => exact .bind (.call member arguments parallel) fun _ => pure _
  | none =>
      refine ite (fun _ => pure _) fun _ => .read fun name => ?_
      exact raise parallel.frame site.span _

theorem callSequence (sequence : Value) (arguments : List (Option Value)) :
    Composed pair own (callSequence sequence arguments site)
      (Evaluation.callSequence sequence arguments site') := by
  unfold Evaluation.callSequence
  rw [parallel.span]
  split
  · exact .elementary (.check parallel.frame site.span _)
  · exact raiseTyped parallel.frame site.span sequence .indexArguments

theorem callValue (callee : Value) (arguments : List (Option Value)) :
    Composed pair own (callValue pair.self pair.settings callee arguments site)
      (Evaluation.callValue pair.other pair.settings callee arguments site') := by
  unfold Evaluation.callValue
  split
  · exact callFunction parallel _ arguments
  · exact callFunction parallel _ _
  · exact callBuiltin parallel _ arguments
  · exact instantiate parallel _ arguments
  · exact callSequence parallel _ arguments
  · exact callSequence parallel _ arguments
  · rw [parallel.span]
    exact raiseTyped parallel.frame site.span _ .notCallable

end Calls

section Forms

variable (parallel : frame.Parallel pair.alike frame') (owned : frame.scope.inner ∈ own)
include parallel owned

theorem evalCall (span : Span) (callee : Node) (arguments : List Node) :
    Composed pair own (evalCall pair.self pair.settings frame span callee arguments)
      (Evaluation.evalCall pair.other pair.settings frame' span callee arguments) := by
  have given : Composed pair own (evalArguments pair.self frame arguments)
      (evalArguments pair.other frame' arguments) := by
    induction arguments with
    | nil => exact pure []
    | cons node rest ih =>
        refine .bind ?_ fun value => .bind ih fun values => pure _
        unfold evalArgument
        split
        · exact pure none
        · exact .bind (.evaluate node parallel owned) fun value => pure _
  refine .bind (.evaluate callee parallel owned) fun value => .bind given fun values => ?_
  have called : CallSite.Parallel pair.alike ⟨frame, span, arguments.map (·.span)⟩
      ⟨frame', span, arguments.map (·.span)⟩ := ⟨parallel, rfl, rfl⟩
  exact callValue called value values

/-! ## Modules -/

omit owned in
theorem moduleBody (span : Span) (name : String) (document : Document) (program : Node) :
    Composed pair own (moduleBody pair.self frame span name document program)
      (Evaluation.moduleBody pair.other frame' span name document program) := by
  -- The scope is opened together with the exports, before the frame is there.
  simp only [Evaluation.moduleBody, openModule, bind_assoc, pure_bind]
  refine .inside fun scope => .bind (.elementary (.create fun _ => ⟨rfl, rfl⟩)) fun exports => ?_
  have inner : Frame.Parallel pair.alike
      ⟨frame.enter s!"<module {name}>" span, scope, some exports, document⟩
      ⟨frame'.enter s!"<module {name}>" span, scope, some exports, document⟩ :=
    ⟨parallel.enter _ span, rfl, rfl, rfl⟩
  refine .bind (.contain inner (.evaluate program inner List.mem_cons_self)) fun _ => ?_
  exact .elementary (.readHeap _)

omit owned in
theorem raiseUnreadable (span : Span) (name : String) (document : Document)
    (error : Grammar.SourceError) :
    Composed pair own (raiseUnreadable frame span name document error : Action α)
      (Evaluation.raiseUnreadable frame' span name document error) := by
  refine .elementary ⟨fun machine => ?_, fun machine => Still.refl machine, ?_⟩
  · exact .error _ _ machine (parallel.enter _ span)
  · intro machine signal after ended
    cases ended

omit owned in
theorem loadModule (span : Span) (name path : String) :
    Composed pair own (loadModule pair.self pair.settings frame span name path)
      (Evaluation.loadModule pair.other pair.settings frame' span name path) := by
  refine .bind (.elementary .get) fun machine => ?_
  split
  · exact raise parallel span _
  · split
    · exact raiseUnreadable parallel span name _ _
    · exact .withinCall parallel (moduleBody parallel span name _ _)

omit owned in
theorem loadNative (span : Span) (name : String) :
    Composed pair own (loadNative frame span name) (Evaluation.loadNative frame' span name) := by
  refine .elementary (.of_fallible (Evaluation.loadNative · span name)
    (Evaluation.raise · span)
    (fun machine =>
      (machine.heap.newNative? name).elim (.error (.notAModule name), machine)
        fun native => (.ok native.1, { machine with heap := native.2 }))
    ?_ ?_ (.raise parallel span))
  · intro frame machine
    unfold Evaluation.loadNative
    cases machine.heap.newNative? name <;> rfl
  · intro machine
    unfold Heap.newNative?
    by_cases native : name = "math"
    · rw [if_pos native]
      exact ⟨rfl, Heap.tables_installAll _ _ _, Heap.builtins_installAll _ _ _⟩
    · rw [if_neg native]
      exact Still.refl machine

theorem evalImport (span : Span) (name : String) (rename : Option String) :
    Composed pair own (evalImport pair.self pair.settings frame span name rename)
      (Evaluation.evalImport pair.other pair.settings frame' span name rename) := by
  have found : Composed pair own (findModule? pair.settings name)
      (findModule? pair.settings name) :=
    .elementary (.of_value _ id (fun _ => rfl) Still.refl)
  have library : ∀ exports, Composed pair own
      (do
        let id ← create fun heap => heap.newLibrary ⟨name, exports⟩
        Evaluation.bindName frame (rename.getD name) (.library id)
        return .library id : Action Value)
      (do
        let id ← create fun heap => heap.newLibrary ⟨name, exports⟩
        Evaluation.bindName frame' (rename.getD name) (.library id)
        return .library id) := by
    intro exports
    refine .bind (.elementary (.create fun _ => ⟨rfl, rfl⟩)) fun id => ?_
    exact .bind (bindName parallel owned (rename.getD name) (.library id)) fun _ => pure _
  refine .bind found fun path => ?_
  cases path with
  | some path => exact .bind (loadModule parallel span name path) library
  | none => exact .bind (loadNative parallel span name) library

theorem evalExport (node : Node) (name : String) :
    Composed pair own (evalExport pair.self frame node name)
      (Evaluation.evalExport pair.other frame' node name) := by
  unfold Evaluation.evalExport
  rw [parallel.exports]
  refine .bind (.evaluate node parallel owned) fun value => ?_
  split
  · exact .bind (.elementary (.changeHeap fun _ => ⟨rfl, rfl⟩)) fun _ => pure _
  · exact pure _

/-! ## Reading and writing -/

theorem evalTarget (transfer : Data.Transfer) (node : Node) :
    Composed pair own (evalTarget pair.self frame transfer node)
      (Evaluation.evalTarget pair.other frame' transfer node) := by
  refine .bind (.evaluate node parallel owned) fun value => ?_
  split
  · exact pure _
  · exact raiseTyped parallel node.span _ (.transferTarget transfer)

theorem evalLine (line : Option Node) :
    Composed pair own (evalLine pair.self frame line)
      (Evaluation.evalLine pair.other frame' line) := by
  cases line with
  | none => exact pure none
  | some node =>
      refine .bind (.evaluate node parallel owned) fun value => ?_
      split
      · exact ite (fun _ => pure _) fun _ => raise parallel node.span _
      · exact raiseTyped parallel node.span _ .lineType

theorem evalWrite (span : Span) (node : Node) (overwrite : Bool) (target : Node)
    (line : Option Node) :
    Composed pair own
      (evalWrite pair.self pair.settings frame span node overwrite target line)
      (Evaluation.evalWrite pair.other pair.settings frame' span node overwrite target line) := by
  refine .bind (.evaluate node parallel owned) fun value => .read fun text => ?_
  refine .bind (evalTarget parallel owned .write target) fun target => ?_
  refine .bind (evalLine parallel owned line) fun line => ?_
  refine ite (fun _ => ?_) fun _ => ?_
  · exact .bind (.elementary (.printText parallel span _)) fun _ => pure _
  · refine .bind (.elementary ?_) fun _ => pure _
    exact .writeFile pair.settings parallel span target text overwrite line

theorem keepText (name : Option String) (text : String) :
    Composed pair own (keepText frame name text) (Evaluation.keepText frame' name text) := by
  cases name with
  | some name => exact .bind (bindName parallel owned name _) fun _ => pure _
  | none => exact pure _

theorem evalRead (span : Span) (target : Node) (name : Option String) (line : Option Node) :
    Composed pair own (evalRead pair.self pair.settings frame span target name line)
      (Evaluation.evalRead pair.other pair.settings frame' span target name line) := by
  refine .bind (evalTarget parallel owned .read target) fun target => ?_
  refine .bind (evalLine parallel owned line) fun line => ?_
  refine ite (fun _ => ?_) fun _ => ?_
  · exact .bind (.elementary (.readLine parallel span)) (keepText parallel owned name)
  · exact .bind (.elementary (.readFile pair.settings parallel span target line))
      (keepText parallel owned name)

end Forms

/-! ## Tasks -/

/-- Every form of a program is composed, and binds names only in the table of its frame. -/
theorem evalNode (parallel : frame.Parallel pair.alike frame')
    (owned : frame.scope.inner ∈ own) (fuel : Nat) (node : Node) :
    Composed pair own (evalNode pair.settings fuel pair.self node frame)
      (Evaluation.evalNode pair.settings fuel pair.other node frame') := by
  unfold Evaluation.evalNode
  split
  · exact pure _
  · exact pure _
  · exact evalList parallel owned _
  · exact .elementary (.lookUp parallel _ _)
  · exact evalInspect parallel _ _
  · exact pure _
  · exact evalAssign parallel owned _ _ _ _
  · exact evalDelete parallel owned _ _
  · exact evalBinary parallel owned _ _ _ _
  · exact .bind (.evaluate _ parallel owned) fun left => evalLinks parallel owned _ left _
  · exact .bind (.evaluate _ parallel owned) fun value => .elementary (.check parallel _ _)
  · exact evalFallback parallel owned _
  · exact evalConditional parallel owned _ _ _
  · exact evalLoop parallel owned fuel _ _ _ _
  · exact evalFunction parallel owned _ _ _ _ _
  · exact evalClass parallel owned _ _ _ _
  · exact evalCall parallel owned _ _ _
  · exact evalAttribute parallel owned _ _
  · exact evalReturn parallel owned _ _
  · exact evalJump parallel _ _ _
  · exact evalJump parallel _ _ _
  · exact evalImport parallel owned _ _ _
  · exact evalExport parallel owned _ _
  · exact evalWrite parallel owned _ _ _ _ _
  · exact evalRead parallel owned _ _ _ _
  · exact evalAssertion parallel owned _ _ _
  · exact evalSequence parallel owned _ _

end Composed

/-- Evaluation with a given amount of fuel, compared with itself. -/
def Pairing.ofFuel (comparison : Comparison) (settings : Settings) (fuel : Nat) : Pairing where
  toComparison := comparison
  settings := settings
  self := perform settings fuel
  other := perform settings fuel

theorem perform_evaluate_composed {comparison : Comparison} {settings : Settings} {fuel : Nat}
    (node : Node) (parallel : frame.Parallel comparison.alike frame') :
    Composed (.ofFuel comparison settings fuel) [frame.scope.inner]
      (perform settings (fuel + 1) (.evaluate node frame))
      (perform settings (fuel + 1) (.evaluate node frame')) :=
  Composed.evalNode parallel (List.mem_singleton_self _) fuel node

theorem perform_call_composed {comparison : Comparison} {settings : Settings} {fuel : Nat}
    {site site' : CallSite} (callee : Value) (arguments : List (Option Value))
    (parallel : site.Parallel comparison.alike site') :
    Composed (.ofFuel comparison settings fuel) []
      (perform settings (fuel + 1) (.call callee arguments site))
      (perform settings (fuel + 1) (.call callee arguments site')) :=
  Composed.callValue parallel callee arguments

end Evaluation
end Scripting
