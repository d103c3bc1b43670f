import Scripting.Proofs.FollowedForms
import Scripting.Proofs.HaltingActions

namespace Scripting
namespace Evaluation

/-!
Forms of programs that come to an end.

A form halts if its parts do.  What a call runs is not a part of it: functions and modules run
one level deeper, where the limit is closer, and the initializer of a class is a function or an
earlier class.  A loop that counts or visits items comes closer to its end with every turn,
whatever its body does.
-/

open Data (AllBelow Bindings Fault GivenBelow Heap Scope Value)
open Program (AssignOp BinaryOp CompareOp LoopHeader Node Target UnaryOp)
open Source (Document Span)

/-- A node halts in every frame. -/
def Masters (self : Nat → Evaluator) (depth : Nat) (node : Node) : Prop :=
  ∀ count frame, Halts depth count Value.Below fun fuel => (self fuel).eval node frame

/-- Every call halts. -/
def Answers (settings : Settings) (self : Nat → Evaluator) (depth : Nat) : Prop :=
  ∀ count callee arguments site, Value.Below count callee → GivenBelow count arguments →
    Halts depth count Value.Below fun fuel => callValue (self fuel) settings callee arguments site

/-- The value of a pass, if it has one. -/
def Pass.Below (count : Nat) : Pass → Prop
  | .completed value => value.Below count
  | .skipped | .left => True

/-- A turn after which a loop is closer to its end, in a state that is as it should be. -/
def Turn.Nears {σ : Type} (held : Nat → σ → Prop) (measure : σ → Nat) (state : σ) (count : Nat) :
    Turn σ → Prop
  | .finished => True
  | .made pass next =>
      pass.Below count ∧ ∀ later ∈ next, held count later ∧ measure later < measure state

namespace Halts

variable {α : Type} {self : Nat → Evaluator} {settings : Settings} {depth count : Nat}
  {frame : Frame} {span : Span} {good : Nat → α → Prop}

/-! ## Names, literals, operators and assignments -/

theorem evalAll {nodes : List Node} (parts : ∀ node ∈ nodes, Masters self depth node) :
    Halts depth count AllBelow fun fuel => evalAll (self fuel) frame nodes := by
  induction nodes generalizing count with
  | nil => exact pure fun _ _ => .nil
  | cons node rest ih =>
      obtain ⟨first, others⟩ := List.forall_mem_cons.mp parts
      refine (first count frame).bind fun _ value _ below => (ih others).bind
        fun _ values grown held => pure fun _ more => ?_
      exact .cons (below.mono (Nat.le_trans grown more)) (held.mono more)

theorem evalSequence {nodes : List Node} (parts : ∀ node ∈ nodes, Masters self depth node)
    {last : Value} (below : last.Below count) :
    Halts depth count Value.Below fun fuel => evalSequence (self fuel) frame last nodes := by
  induction nodes generalizing count last with
  | nil => exact pure fun _ more => below.mono more
  | cons node rest ih =>
      obtain ⟨first, others⟩ := List.forall_mem_cons.mp parts
      exact (first count frame).bind fun _ _ _ below => ih others below

theorem evalList {nodes : List Node} (parts : ∀ node ∈ nodes, Masters self depth node) :
    Halts depth count Value.Below fun fuel => evalList (self fuel) frame nodes :=
  (evalAll parts).bind fun _ _ _ held => newList held

theorem evalInspect (name : String) :
    Halts depth count Value.Below fun _ => evalInspect frame span name :=
  (lookUp name).bind fun _ _ _ below => (look _).bind fun _ _ grown _ =>
    (printText _).bind fun _ _ later _ => pure fun _ more =>
      below.mono (Nat.le_trans grown (Nat.le_trans later more))

theorem readAttributes {value : Value} (below : value.Below count) :
    Halts depth count Bindings.Below fun _ =>
      Evaluation.readHeap fun heap => heap.attributes value :=
  readHeap fun _ founded more => founded.attributes (below.mono more)

theorem evalStep {current : Value} (below : current.Below count) {step : Node}
    (part : Masters self depth step) :
    Halts depth count Value.Below fun fuel => evalStep (self fuel) frame current step := by
  refine (readAttributes below).bind fun more attributes _ held => ?_
  have inside : Halts depth more Value.Below fun fuel =>
      evalStep.evalInside (self fuel) frame step attributes :=
    (openScope held frame.scope).bind fun _ scope _ _ =>
      part _ { frame with scope := scope, exports := none }
  cases step.headName? with
  | none => exact inside
  | some name =>
      exact ite (fun _ => inside) fun _ => (typeName current).bind fun _ _ _ _ => raise _

theorem evalSteps {current : Value} (below : current.Below count) {steps : List Node}
    (parts : ∀ step ∈ steps, Masters self depth step) :
    Halts depth count Value.Below fun fuel => evalSteps (self fuel) frame current steps := by
  induction steps generalizing count current with
  | nil => exact pure fun _ more => below.mono more
  | cons step rest ih =>
      obtain ⟨first, others⟩ := List.forall_mem_cons.mp parts
      exact (evalStep below first).bind fun _ _ _ next => ih next others

theorem evalAttribute {base : Node} {steps : List Node} (first : Masters self depth base)
    (parts : ∀ step ∈ steps, Masters self depth step) :
    Halts depth count Value.Below fun fuel => evalAttribute (self fuel) frame base steps :=
  (first count frame).bind fun _ _ _ below => evalSteps below parts

theorem applyBinary (op : BinaryOp) (left : Value) {right : Value} (below : right.Below count) :
    Halts depth count Value.Below fun _ => applyBinary frame span op left right := by
  intro machine sound
  have given : Data.Yields (Data.Product.Below machine.heap machine.heap.classes.size)
      (machine.heap.binary op left right) :=
    .binary sound.founded.values op (below.mono sound.classes)
  cases found : machine.heap.binary op left right with
  | error fault =>
      have fails : Evaluation.applyBinary frame span op left right machine =
          Evaluation.raise frame span fault machine := by
        simp only [Evaluation.applyBinary, bind_apply, Evaluation.check, found]
        rfl
      exact ⟨_, 0, .error sound, fun _ _ => fails⟩
  | ok product =>
      have goesOn : Evaluation.applyBinary frame span op left right machine =
          Evaluation.realize product machine := by
        simp only [Evaluation.applyBinary, bind_apply, Evaluation.check, found]
      rw [found] at given
      obtain ⟨ending, enough, ended, stays⟩ := realize sound.self given
      exact ⟨ending, enough, ended.fewer sound.classes, fun fuel more =>
        goesOn.trans (stays fuel more)⟩

theorem evalBinary (op : BinaryOp) {left right : Node} (first : Masters self depth left)
    (second : Masters self depth right) :
    Halts depth count Value.Below fun fuel => evalBinary (self fuel) frame span op left right := by
  refine (first count frame).bind fun _ value _ _ => (isTruthy value).bind fun _ _ _ _ => ?_
  refine ite (fun _ => pure fun _ _ => trivial) fun _ => ?_
  refine ite (fun _ => pure fun _ _ => trivial) fun _ => ?_
  exact (second _ frame).bind fun _ _ _ below => applyBinary op value below

theorem evalLinks (left : Value) {links : List (CompareOp × Node)}
    (parts : ∀ link ∈ links, Masters self depth link.2) :
    Halts depth count Value.Below fun fuel => evalLinks (self fuel) frame span left links := by
  induction links generalizing count left with
  | nil => exact pure fun _ _ => trivial
  | cons link rest ih =>
      obtain ⟨first, others⟩ := List.forall_mem_cons.mp parts
      refine (first count frame).bind fun _ right _ _ => (checkAny _).bind fun _ _ _ _ => ?_
      exact ite (fun _ => ih right others) fun _ => pure fun _ _ => trivial

theorem evalComparison {first : Node} {links : List (CompareOp × Node)}
    (left : Masters self depth first) (parts : ∀ link ∈ links, Masters self depth link.2) :
    Halts depth count Value.Below fun fuel =>
      evalComparison (self fuel) frame span first links :=
  (left count frame).bind fun _ value _ _ => evalLinks value parts

theorem evalUnary (op : UnaryOp) {operand : Node} (part : Masters self depth operand) :
    Halts depth count Value.Below fun fuel => evalUnary (self fuel) frame span op operand :=
  (part count frame).bind fun _ value _ _ => check fun _ _ _ => .unary op value

theorem evalFallback {operands : List Node}
    (parts : ∀ operand ∈ operands, Masters self depth operand) :
    Halts depth count Value.Below fun fuel => evalFallback (self fuel) frame operands := by
  induction operands generalizing count with
  | nil => exact pure fun _ _ => trivial
  | cons operand rest ih =>
      obtain ⟨first, others⟩ := List.forall_mem_cons.mp parts
      cases rest with
      | nil => exact first count frame
      | cons second more =>
          refine (first count frame).bind fun _ value _ below => ?_
          exact ite (fun _ => ih others) fun _ => pure fun _ more => below.mono more

theorem combine (op : AssignOp) {current : Action Value}
    (old : ∀ more, Halts depth more Value.Below fun _ => current) {value : Value}
    (below : value.Below count) :
    Halts depth count Value.Below fun _ => combine frame span op current value := by
  cases op with
  | set => exact pure fun _ more => below.mono more
  | compound binary =>
      exact (old count).bind fun _ old grown _ => applyBinary binary old (below.mono grown)

theorem assignName (name : String) (op : AssignOp) {value : Value} (below : value.Below count) :
    Halts depth count Value.Below fun _ => assignName frame span name op value :=
  (combine op (fun _ => lookUp name) below).bind fun _ _ _ assigned =>
    (bindName name assigned).bind fun _ _ grown _ => pure fun _ more =>
      assigned.mono (Nat.le_trans grown more)

theorem storedAttribute (id : Data.ObjectId) (name : String) :
    Halts depth count Value.Below fun _ => storedAttribute frame span id name := by
  have look : Halts depth count (fun more found => ∀ value ∈ found, value.Below more) fun _ =>
      Evaluation.readHeap fun heap => (heap.object id).attributes.get? name :=
    readHeap fun _ founded _ _ found => (founded.values.object id).get? found
  refine look.bind fun _ found _ below => ?_
  cases found with
  | none => exact (typeName _).bind fun _ _ _ _ => raise _
  | some value => exact pure fun _ more => (below value rfl).mono more

theorem assignAttribute (owner : Value) (name : String) (op : AssignOp) {value : Value}
    (below : value.Below count) :
    Halts depth count Value.Below fun _ => assignAttribute frame span owner name op value := by
  cases owner with
  | object id =>
      refine (combine op (fun _ => storedAttribute id name) below).bind
        fun _ assigned _ held => ?_
      have changed : Halts depth _ noMatter fun _ =>
          Evaluation.changeHeap fun heap => heap.setAttribute id name assigned :=
        changeHeap fun _ founded more =>
          ⟨Heap.founded_setAttribute founded id name (held.mono more), rfl⟩
      exact changed.bind fun _ _ grown _ => pure fun _ more => held.mono (Nat.le_trans grown more)
  | _ => exact (typeName _).bind fun _ _ _ _ => raise _

theorem assignTarget (op : AssignOp) {target : Target Node}
    (part : ∀ node ∈ target.object, Masters self depth node) {value : Value}
    (below : value.Below count) :
    Halts depth count Value.Below fun fuel => assignTarget (self fuel) frame op target value := by
  obtain ⟨object, name, span⟩ := target
  cases object with
  | none => exact assignName name op below
  | some node =>
      exact (part node rfl count frame).bind fun _ owner grown _ =>
        assignAttribute owner name op (below.mono grown)

theorem assignAll (op : AssignOp) {targets : List (Target Node)}
    (parts : ∀ target ∈ targets, ∀ node ∈ target.object, Masters self depth node)
    {values : List Value} (below : AllBelow count values) :
    Halts depth count AllBelow fun fuel => assignAll (self fuel) frame op targets values := by
  induction targets generalizing count values with
  | nil => exact pure fun _ _ => .nil
  | cons target rest ih =>
      obtain ⟨first, others⟩ := List.forall_mem_cons.mp parts
      cases values with
      | nil => exact pure fun _ _ => .nil
      | cons value values =>
          obtain ⟨here, there⟩ := List.forall_mem_cons.mp below
          refine (assignTarget op first here).bind fun _ _ grown assigned => ?_
          refine (ih others (AllBelow.mono there grown)).bind fun _ _ later held => ?_
          exact pure fun _ more => .cons (assigned.mono (Nat.le_trans later more)) (held.mono more)

theorem evalAssign (op : AssignOp) {targets : List (Target Node)} {nodes : List Node}
    (owners : ∀ target ∈ targets, ∀ node ∈ target.object, Masters self depth node)
    (parts : ∀ node ∈ nodes, Masters self depth node) :
    Halts depth count Value.Below fun fuel =>
      evalAssign (self fuel) frame span targets op nodes := by
  refine (evalAll parts).bind fun _ values _ below => ?_
  refine ite (fun _ => raise _) fun _ => (assignAll op owners below).bind fun _ assigned _ held => ?_
  match assigned, held with
  | [value], held => exact pure fun _ more => (held value List.mem_cons_self).mono more
  | [], held => exact newList held
  | first :: second :: rest, held => exact newList held

theorem evalDelete (name : String) :
    Halts depth count Value.Below fun _ => evalDelete frame span name := by
  have look : Halts depth count (fun more found => ∀ value ∈ found, value.Below more) fun _ =>
      Evaluation.readHeap fun heap => (heap.table frame.scope.inner).get? name :=
    readHeap fun _ founded _ _ found => (founded.values.table _).get? found
  refine look.bind fun more found _ below => ?_
  cases found with
  | none => exact raiseUndefined name
  | some value =>
      have removed : Halts depth more noMatter fun _ =>
          Evaluation.changeHeap fun heap => heap.unbind frame.scope.inner name :=
        changeHeap fun _ founded _ => ⟨Heap.founded_unbind founded _ name, rfl⟩
      exact removed.bind fun _ _ grown _ => pure fun _ more =>
        (below value rfl).mono (Nat.le_trans grown more)

/-! ## Branches and assertions -/

theorem chooseCase {cases : List (Node × Node)} {otherwise : Option Node}
    (parts : ∀ case ∈ cases, Masters self depth case.1 ∧ Masters self depth case.2)
    (last : ∀ node ∈ otherwise, Masters self depth node) :
    Halts depth count (fun _ chosen => ∀ body ∈ chosen, Masters self depth body) fun fuel =>
      chooseCase (self fuel) frame otherwise cases := by
  induction cases generalizing count with
  | nil => exact pure fun _ _ => last
  | cons case rest ih =>
      obtain ⟨first, others⟩ := List.forall_mem_cons.mp parts
      refine (first.1 count frame).bind fun _ decided _ _ =>
        (isTruthy decided).bind fun _ _ _ _ => ite (fun _ => pure fun _ _ body same => ?_)
          fun _ => ih others
      cases same
      exact first.2

theorem evalConditional {cases : List (Node × Node)} {otherwise : Option Node} (block : Bool)
    (parts : ∀ case ∈ cases, Masters self depth case.1 ∧ Masters self depth case.2)
    (last : ∀ node ∈ otherwise, Masters self depth node) :
    Halts depth count Value.Below fun fuel =>
      evalConditional (self fuel) frame cases otherwise block := by
  refine (chooseCase parts last).bind fun _ chosen _ known => ?_
  cases chosen with
  | none => exact pure fun _ _ => trivial
  | some body =>
      refine (known body rfl _ frame).bind fun _ value _ below => pure fun _ more => ?_
      cases block with
      | true => exact trivial
      | false => exact below.mono more

theorem evalMessage {message : Option Node} (part : ∀ node ∈ message, Masters self depth node) :
    Halts depth count noMatter fun fuel => evalMessage (self fuel) frame message := by
  cases message with
  | none => exact pure fun _ _ => trivial
  | some node =>
      exact (part node rfl count frame).bind fun _ _ _ _ => (look _).bind fun _ _ _ _ =>
        pure fun _ _ => trivial

theorem evalAssertion {condition : Node} {message : Option Node}
    (first : Masters self depth condition) (part : ∀ node ∈ message, Masters self depth node) :
    Halts depth count Value.Below fun fuel =>
      evalAssertion (self fuel) frame span condition message :=
  (first count frame).bind fun _ decided _ _ => (isTruthy decided).bind fun _ _ _ _ =>
    ite (fun _ => pure fun _ _ => trivial) fun _ => (evalMessage part).bind fun _ _ _ _ => raise _

theorem evalOptional {value : Option Node} (part : ∀ node ∈ value, Masters self depth node) :
    Halts depth count Value.Below fun fuel => evalOptional (self fuel) frame value := by
  cases value with
  | none => exact pure fun _ _ => trivial
  | some node => exact part node rfl count frame

theorem evalReturn {value : Option Node} (part : ∀ node ∈ value, Masters self depth node) :
    Halts depth count Value.Below fun fuel => evalReturn (self fuel) frame span value :=
  (evalOptional part).bind fun _ _ _ below => throwSignal below

/-! ## Functions -/

theorem evalFunction (name : Option String) (required : List String)
    {optional : List (String × Node)} {body : Node} (arrow : Bool) (bounded : body.Bounded)
    (defaults : ∀ parameter ∈ optional, parameter.2.Bounded) :
    Halts depth count Value.Below fun _ =>
      evalFunction frame name required optional body arrow := by
  have made : ∀ function : Data.Function, function.Bounded → Halts depth count noMatter fun _ =>
      Evaluation.create fun heap => heap.newFunction function := fun _ bounded =>
    create fun _ founded _ => ⟨Heap.founded_newFunction founded bounded, Nat.le_refl _, trivial⟩
  refine (made _ ⟨bounded, defaults⟩).bind fun _ id _ _ => ?_
  cases name with
  | none => exact pure fun _ _ => trivial
  | some name =>
      have defined : ∀ more, Value.Below more (.function id) := fun _ => trivial
      exact (bindName name (defined _)).bind fun _ _ _ _ => pure fun _ _ => trivial

theorem bindRequired (site : CallSite) (function : Data.Function) (parameters : List String)
    {arguments : List (Option Value)} (below : GivenBelow count arguments) :
    Halts depth count GivenBelow fun _ =>
      bindRequired site frame function parameters arguments := by
  induction parameters generalizing count arguments with
  | nil => exact pure fun _ more => below.mono more
  | cons parameter rest ih =>
      match arguments, below with
      | some value :: others, below =>
          have given : value.Below count := below _ List.mem_cons_self value rfl
          exact (bindName parameter given).bind fun _ _ grown _ => ih (below.tail.mono grown)
      | none :: others, _ => exact raise _
      | [], _ => exact raise _

theorem bindOptional {parameters : List (String × Node)}
    (parts : ∀ parameter ∈ parameters, Masters self depth parameter.2)
    {arguments : List (Option Value)} (below : GivenBelow count arguments) :
    Halts depth count noMatter fun fuel =>
      bindOptional (self fuel) frame parameters arguments := by
  induction parameters generalizing count arguments with
  | nil => exact pure fun _ _ => trivial
  | cons parameter rest ih =>
      obtain ⟨first, others⟩ := List.forall_mem_cons.mp parts
      have omitted : Halts depth count noMatter fun fuel =>
          ((self fuel).eval parameter.2 frame >>= fun value =>
            Evaluation.bindName frame parameter.1 value >>= fun _ =>
              Evaluation.bindOptional (self fuel) frame rest arguments.tail) :=
        (first count frame).bind fun _ _ grown held => (bindName parameter.1 held).bind
          fun _ _ later _ => ih others
            ((below.mono (Nat.le_trans grown later)).subset fun _ => List.mem_of_mem_tail)
      match arguments, below, omitted with
      | some value :: remaining, below, _ =>
          have given : value.Below count := below _ List.mem_cons_self value rfl
          exact (bindName parameter.1 given).bind fun _ _ grown _ =>
            ih others (below.tail.mono grown)
      | none :: remaining, _, omitted => exact omitted
      | [], _, omitted => exact omitted

/-- A function halts at a level where its body and its defaults do. -/
theorem enterFunction {function : Data.Function} (body : Masters self depth function.body)
    (defaults : ∀ parameter ∈ function.optional, Masters self depth parameter.2)
    {arguments : List (Option Value)} (below : GivenBelow count arguments) (site : CallSite) :
    Halts depth count Value.Below fun fuel =>
      enterFunction (self fuel) function arguments site := by
  refine (openScope Bindings.below_empty function.scope).bind fun _ scope grown _ => ?_
  refine (bindRequired site function function.required (below.mono grown)).bind
    fun _ rest _ held => (bindOptional defaults held).bind fun _ _ _ _ => catchReturn ?_
  refine (body _ (calleeFrame function site scope)).bind fun _ value _ below =>
    pure fun _ more => ?_
  split
  · exact below.mono more
  · exact trivial

theorem callFunction (deeper : depth < settings.maxDepth →
      ∀ node : Node, node.Bounded → Masters self (depth + 1) node)
    (id : Data.FunctionId) {arguments : List (Option Value)} (below : GivenBelow count arguments)
    (site : CallSite) :
    Halts depth count Value.Below fun fuel =>
      callFunction (self fuel) settings id arguments site := by
  have read : Halts depth count (fun _ function => function.Bounded) fun _ =>
      Evaluation.readHeap fun heap => heap.function id :=
    readHeap fun _ founded _ => founded.function id
  refine read.bind fun _ function grown bounded => ?_
  cases arityFault? function arguments.length with
  | some fault => exact raise _
  | none =>
      refine withinCall fun room => enterFunction (deeper room _ bounded.body)
        (fun parameter listed => deeper room _ (bounded.optional parameter listed))
        (below.mono grown) site

/-! ## Classes -/

theorem evalParent (name : String) {parent : Option Node}
    (part : ∀ node ∈ parent, Masters self depth node) :
    Halts depth count (fun more found => ∀ id ∈ found, id.index < more) fun fuel =>
      evalParent (self fuel) frame name parent := by
  cases parent with
  | none => exact pure fun _ _ => nofun
  | some node =>
      refine (part node rfl count frame).bind fun _ value _ below => ?_
      cases value with
      | constructor id =>
          refine pure fun _ more found same => ?_
          cases same
          exact Nat.lt_of_lt_of_le below more
      | _ => exact (typeName _).bind fun _ _ _ _ => raise _

theorem runClassBody (name : String) {body : Node} (part : Masters self depth body) :
    Halts depth count noMatter fun fuel => runClassBody (self fuel) frame span name body :=
  (openScope Bindings.below_empty frame.scope).bind fun _ _ _ _ =>
    (contain (part _ _)).bind fun _ _ _ _ => pure fun _ _ => trivial

/-- The new class comes after all that its body has bound and after the class it extends. -/
theorem evalClass (name : String) {parent : Option Node} {body : Node}
    (first : ∀ node ∈ parent, Masters self depth node) (part : Masters self depth body) :
    Halts depth count Value.Below fun fuel =>
      evalClass (self fuel) frame span name parent body := by
  refine (evalParent name first).bind fun _ parent _ there =>
    (runClassBody name part).bind fun more scope grown _ => ?_
  have made : Halts depth more (fun later (id : Data.ClassId) => id.index < later) fun _ =>
      Evaluation.create fun heap =>
        heap.newClass (heap.extendClass name (heap.table scope.inner) parent) := by
    refine create fun heap founded later => ?_
    have grounded := founded.extendClass name (founded.values.table scope.inner)
      fun id found => Nat.lt_of_lt_of_le (there id found) (Nat.le_trans grown later)
    have size : heap.classes.size + 1 = (heap.newClass _).2.classes.size :=
      (Array.size_push (heap.extendClass name (heap.table scope.inner) parent)).symm
    exact ⟨Heap.founded_newClass founded grounded, size ▸ Nat.le_succ _, size ▸ Nat.lt_succ_self _⟩
  refine made.bind fun more id _ there => ?_
  have last : Value.Below more (.constructor id) := there
  exact (bindName name last).bind fun _ _ grown _ => pure fun _ more =>
    last.mono (Nat.le_trans grown more)

/-- What an object is given when it is made. -/
theorem attribute?_newInstance {heap : Heap} (founded : heap.Founded) {id : Data.ClassId}
    {name : String} {member : Value} :
    let object := heap.newObject ⟨id, heap.instanceAttributes (heap.constructor id)⟩
    object.2.attribute? object.1 name = some member → member.Below id.index := by
  intro object found
  obtain ⟨stored, here, rfl⟩ := Option.map_eq_some_iff.mp found
  have fresh : object.2.object object.1 =
      ⟨id, heap.instanceAttributes (heap.constructor id)⟩ := by
    change (heap.objects.push _).getD heap.objects.size default = _
    rw [Array.getD_eq_getD_getElem?, Array.getElem?_push_size]
    rfl
  rw [fresh] at here
  exact Value.below_bindTo
    ((founded.instanceAttributes (founded.constructor id)).get? here) object.1

/-- Call the initializer that was found in a new object, if there is one. -/
def startObject (self : Evaluator) (id : Data.ClassId) (object : Data.ObjectId)
    (arguments : List (Option Value)) (site : CallSite) : Option Value → Action Value
  | some member => do
      let _ ← self (.call member arguments site)
      return .object object
  | none => do
      if arguments.isEmpty then return .object object
      else
        let name ← Evaluation.readHeap fun heap => (heap.constructor id).name
        Evaluation.raise site.frame site.span (.noInitializer name arguments.length)

theorem startObject_halts (id : Data.ClassId) (object : Data.ObjectId)
    {arguments : List (Option Value)} {site : CallSite} {found : Option Value}
    (called : ∀ member ∈ found,
      Halts depth count Value.Below fun fuel => self fuel (.call member arguments site)) :
    Halts depth count Value.Below fun fuel =>
      startObject (self fuel) id object arguments site found := by
  cases found with
  | some member => exact (called member rfl).bind fun _ _ _ _ => pure fun _ _ => trivial
  | none =>
      exact ite (fun _ => pure fun _ _ => trivial) fun _ => (look _).bind fun _ _ _ _ => raise _

/-- An object of a class is made if the members that come before the class answer. -/
theorem instantiate {id : Data.ClassId} (there : id.index < count)
    {arguments : List (Option Value)} {site : CallSite}
    (members : ∀ member, Value.Below id.index member →
      Halts depth count Value.Below fun fuel => self fuel (.call member arguments site)) :
    Halts depth count Value.Below fun fuel =>
      instantiate (self fuel) id arguments site := by
  intro machine sound
  let object := machine.heap.newObject
    ⟨id, machine.heap.instanceAttributes (machine.heap.constructor id)⟩
  have attributes := sound.founded.instanceAttributes (sound.founded.constructor id)
  have earlier : id.index ≤ machine.heap.classes.size :=
    Nat.le_of_lt (Nat.lt_of_lt_of_le there sound.classes)
  have made : { machine with heap := object.2 }.Sound depth count :=
    ⟨Heap.founded_newObject sound.founded (attributes.mono earlier), sound.depth, sound.classes⟩
  have started : Halts depth count Value.Below fun fuel =>
      startObject (self fuel) id object.1 arguments site
        (object.2.attribute? object.1 initializer) :=
    startObject_halts id object.1 fun member found =>
      members member (attribute?_newInstance sound.founded found)
  exact (started _ made).congr 0 fun _ _ => rfl

/-! ## Calls -/

theorem callSequence (sequence : Value) (arguments : List (Option Value)) (site : CallSite) :
    Halts depth count Value.Below fun _ => callSequence sequence arguments site := by
  have refused : Halts depth count Value.Below fun _ =>
      (Evaluation.typeName sequence >>= fun name =>
        Evaluation.raise site.frame site.span (.indexArguments name) : Action Value) :=
    (typeName sequence).bind fun _ _ _ _ => raise _
  match arguments with
  | [some index] => exact check fun _ founded _ => .element founded.values sequence index
  | [] | [none] | some _ :: _ :: _ | none :: _ :: _ => exact refused

/--
All calls halt at a level if functions do: a class calls at most a function or an earlier class.
-/
theorem callValue (deeper : depth < settings.maxDepth →
      ∀ node : Node, node.Bounded → Masters self (depth + 1) node)
    (steps : ∀ fuel callee arguments site, self (fuel + 1) (.call callee arguments site) =
      Evaluation.callValue (self fuel) settings callee arguments site) :
    Answers settings self depth := by
  intro count callee arguments site below given
  have classes : ∀ bound callee, Value.Below bound callee → bound ≤ count →
      Halts depth count Value.Below fun fuel =>
        Evaluation.callValue (self fuel) settings callee arguments site := by
    intro bound
    induction bound using Nat.strongRecOn with
    | ind bound earlier =>
        intro callee below within
        cases callee with
        | function id => exact callFunction deeper id given site
        | method id receiver =>
            refine callFunction deeper id ?_ site
            exact List.forall_mem_cons.mpr ⟨fun _ same => by cases same; exact trivial, given⟩
        | builtin id => exact callBuiltin settings id given site
        | constructor id =>
            refine instantiate (Nat.lt_of_lt_of_le below within) fun member held => ?_
            have answered := earlier id.index below member held
              (Nat.le_trans (Nat.le_of_lt below) within)
            intro machine sound
            exact (answered machine sound).later fun fuel => by
              rw [steps fuel member arguments site]
        | list id => exact callSequence _ arguments site
        | text s => exact callSequence _ arguments site
        | _ => exact (typeName _).bind fun _ _ _ _ => raise _
  exact classes count callee below (Nat.le_refl count)

theorem evalArgument {node : Node} (part : Masters self depth node) :
    Halts depth count (fun more argument => ∀ value ∈ argument, Value.Below more value) fun fuel =>
      evalArgument (self fuel) frame node := by
  have given : Halts depth count (fun more argument => ∀ value ∈ argument, Value.Below more value)
      fun fuel => ((self fuel).eval node frame >>= fun value => Pure.pure (some value)) := by
    refine (part count frame).bind fun _ value _ below => pure fun _ more other same => ?_
    cases same
    exact below.mono more
  unfold Evaluation.evalArgument
  split
  · exact pure fun _ _ => nofun
  · exact given

theorem evalArguments {nodes : List Node} (parts : ∀ node ∈ nodes, Masters self depth node) :
    Halts depth count GivenBelow fun fuel => evalArguments (self fuel) frame nodes := by
  induction nodes generalizing count with
  | nil => exact pure fun _ _ => nofun
  | cons node rest ih =>
      obtain ⟨first, others⟩ := List.forall_mem_cons.mp parts
      refine (evalArgument first).bind fun _ argument _ below => (ih others).bind
        fun _ arguments grown held => pure fun _ more => ?_
      refine List.forall_mem_cons.mpr ⟨fun value same => ?_, held.mono more⟩
      exact (below value same).mono (Nat.le_trans grown more)

theorem evalCall (answers : Answers settings self depth) {callee : Node} {arguments : List Node}
    (first : Masters self depth callee) (parts : ∀ node ∈ arguments, Masters self depth node) :
    Halts depth count Value.Below fun fuel =>
      evalCall (self fuel) settings frame span callee arguments :=
  (first count frame).bind fun _ _ _ below => (evalArguments parts).bind
    fun _ _ grown given => answers _ _ _ _ (below.mono grown) given

/-! ## Reading and writing -/

theorem evalTarget (transfer : Data.Transfer) {node : Node} (part : Masters self depth node) :
    Halts depth count noMatter fun fuel => evalTarget (self fuel) frame transfer node := by
  refine (part count frame).bind fun _ value _ _ => ?_
  cases value with
  | text name => exact pure fun _ _ => trivial
  | _ => exact (typeName _).bind fun _ _ _ _ => raise _

theorem evalLine {line : Option Node} (part : ∀ node ∈ line, Masters self depth node) :
    Halts depth count noMatter fun fuel => evalLine (self fuel) frame line := by
  cases line with
  | none => exact pure fun _ _ => trivial
  | some node =>
      refine (part node rfl count frame).bind fun _ value _ _ => ?_
      cases value with
      | int n => exact ite (fun _ => pure fun _ _ => trivial) fun _ => raise _
      | _ => exact (typeName _).bind fun _ _ _ _ => raise _

theorem evalWrite {text target : Node} {line : Option Node} (overwrite : Bool)
    (first : Masters self depth text) (second : Masters self depth target)
    (part : ∀ node ∈ line, Masters self depth node) :
    Halts depth count Value.Below fun fuel =>
      evalWrite (self fuel) settings frame span text overwrite target line := by
  refine (first count frame).bind fun _ _ _ _ => (look _).bind fun _ _ _ _ =>
    (evalTarget .write second).bind fun _ target _ _ => (evalLine part).bind fun _ _ _ _ => ?_
  refine ite (fun _ => ?_) fun _ => ?_
  · exact (printText _).bind fun _ _ _ _ => pure fun _ _ => trivial
  · exact (writeFile settings target _ _ _).bind fun _ _ _ _ => pure fun _ _ => trivial

theorem evalRead {target : Node} {line : Option Node} (name : Option String)
    (first : Masters self depth target) (part : ∀ node ∈ line, Masters self depth node) :
    Halts depth count Value.Below fun fuel =>
      evalRead (self fuel) settings frame span target name line := by
  refine (evalTarget .read first).bind fun _ target _ _ => (evalLine part).bind
    fun _ line _ _ => ?_
  by_cases console : target = consoleInput
  · simp only [if_pos console]
    exact readLine.bind fun _ text _ _ => keepText name text
  · simp only [if_neg console]
    exact (readFile settings target line).bind fun _ text _ _ => keepText name text

/-! ## Loops -/

theorem runPass (label : Option String) {body : Node} (part : Masters self depth body) :
    Halts depth count Pass.Below fun fuel => runPass (self fuel) frame label body := by
  intro machine sound
  obtain ⟨ending, enough, ended, stays⟩ := part count frame machine sound
  refine ⟨Evaluation.runPass (fun _ _ => ending) frame label body machine, enough, ?_,
    fun fuel more => ?_⟩
  · cases ended with
    | value sound holds => exact .value sound holds
    | error sound => exact .error sound
    | @signal signal after sound holds =>
        cases signal with
        | returned value place => exact .signal sound holds
        | exited code => exact .signal sound trivial
        | jumped jump target place =>
            simp only [Evaluation.runPass, Evaluator.eval]
            split
            · refine .value sound ?_
              cases jump <;> exact trivial
            · exact .signal sound trivial
    | overgrown sound arises => exact .overgrown sound arises
  · simp only [Evaluation.runPass, Evaluator.eval] at stays ⊢
    rw [stays fuel more]

section Turns

variable {σ : Type}

/-- What a loop does after a turn. -/
def afterTurn (again : σ → List Value → Action (List Value)) (collected : List Value) :
    Turn σ → Action (List Value)
  | .finished => return collected.reverse
  | .made .left _ => return collected.reverse
  | .made (.completed value) none => return (value :: collected).reverse
  | .made (.completed value) (some next) => again next (value :: collected)
  | .made .skipped none => return collected.reverse
  | .made .skipped (some next) => again next collected

theorem takeTurns_succ (turn : σ → Action (Turn σ)) (fuel : Nat) (state : σ)
    (collected : List Value) :
    takeTurns turn (fuel + 1) state collected =
      turn state >>= afterTurn (takeTurns turn fuel) collected := by
  unfold takeTurns
  refine congrArg (turn state >>= ·) (funext fun taken => ?_)
  match taken with
  | .finished => rfl
  | .made .left _ => rfl
  | .made (.completed value) none => rfl
  | .made (.completed value) (some next) => rfl
  | .made .skipped none => rfl
  | .made .skipped (some next) => rfl

/--
A loop halts if every turn brings it closer to its end.  Turns are counted down from the fuel
that is left; those that have been used are added up.
-/
theorem takeTurns {turn : Nat → σ → Action (Turn σ)} (held : Nat → σ → Prop)
    (measure : σ → Nat)
    (turns : ∀ more state, held more state →
      Halts depth more (Turn.Nears held measure state) fun fuel => turn fuel state)
    (used : Nat) {state : σ} (holds : held count state) {collected : List Value}
    (below : AllBelow count collected) :
    Halts depth count AllBelow fun fuel =>
      takeTurns (turn fuel) (fuel - used) state collected := by
  have done : ∀ {more : Nat} {values : List Value}, AllBelow more values →
      Halts depth more AllBelow fun _ => Pure.pure values.reverse := fun held =>
    pure fun _ later => (held.mono later).subset fun _ => List.mem_reverse.mp
  induction size : measure state using Nat.strongRecOn generalizing count used state collected with
  | ind size closer =>
      subst size
      have taken : Halts depth count AllBelow fun fuel =>
          turn fuel state >>=
            afterTurn (Evaluation.takeTurns (turn fuel) (fuel - (used + 1))) collected := by
        refine (turns count state holds).bind fun more made grown nears => ?_
        have collected := below.mono grown
        match made, nears with
        | .finished, _ => exact done collected
        | .made .left _, _ => exact done collected
        | .made (.completed value) none, nears => exact done (.cons nears.1 collected)
        | .made (.completed value) (some next), nears =>
            obtain ⟨following, less⟩ := nears.2 next rfl
            exact closer _ less (used + 1) following (.cons nears.1 collected) rfl
        | .made .skipped none, _ => exact done collected
        | .made .skipped (some next), nears =>
            obtain ⟨following, less⟩ := nears.2 next rfl
            exact closer _ less (used + 1) following collected rfl
      intro machine sound
      refine (taken machine sound).congr (used + 1) fun fuel more => ?_
      have left : fuel - used = fuel - (used + 1) + 1 := by omega
      rw [left, takeTurns_succ]

/-- How far a counter is from the last value. -/
def distance (last step current : Int64) : Nat :=
  if 0 ≤ step then (last.toInt - current.toInt).toNat else (current.toInt - last.toInt).toNat

/-- A counter that steps on comes closer to the last value. -/
theorem distance_lt {last step current next : Int64} (before : isBefore current last step = true)
    (moves : step ≠ 0) (fits : Number.fit? (current.toInt + step.toInt) = some next) :
    distance last step next < distance last step current := by
  have stepped := Number.toInt_of_fit? fits
  have apart : step.toInt ≠ 0 := fun zero => moves (Int64.toInt_inj.mp zero)
  unfold distance
  unfold isBefore at before
  split
  · rename_i up
    rw [if_pos up] at before
    have further := Int64.lt_iff_toInt_lt.mp (of_decide_eq_true before)
    have positive : 0 ≤ step.toInt := Int64.le_iff_toInt_le.mp up
    omega
  · rename_i down
    rw [if_neg down] at before
    have further := Int64.lt_iff_toInt_lt.mp (of_decide_eq_true before)
    have negative : ¬ 0 ≤ step.toInt := fun up => down (Int64.le_iff_toInt_le.mpr up)
    omega

variable {pass : Nat → Action Pass} (passes : ∀ more, Halts depth more Pass.Below pass)
include passes

theorem countedTurn (counter : String) (last : Int64) {step : Int64} (moves : step ≠ 0)
    (current : Int64) :
    Halts depth count (Turn.Nears noMatter (distance last step) current) fun fuel =>
      countedTurn frame counter last step (pass fuel) current := by
  by_cases before : isBefore current last step = true
  · have number : ∀ more, Value.Below more (.int current) := fun _ => trivial
    have passed : Halts depth count (Turn.Nears noMatter (distance last step) current) fun fuel =>
        (Evaluation.bindName frame counter (.int current) >>= fun _ => pass fuel >>= fun made =>
          Pure.pure (.made made (Number.fit? (current.toInt + step.toInt)))) := by
      refine (bindName counter (number _)).bind fun _ _ _ _ => (passes _).bind
        fun _ made _ below => pure fun _ more => ⟨?_, fun next fits => ⟨trivial, ?_⟩⟩
      · cases made with
        | completed value => exact Value.Below.mono below more
        | _ => exact trivial
      · exact distance_lt before moves fits
    simp only [Evaluation.countedTurn, before, if_true]
    exact passed
  · simp only [Evaluation.countedTurn, before]
    exact pure fun _ _ => trivial

theorem eachTurn (name : String) {items : List Value} (below : AllBelow count items) :
    Halts depth count (Turn.Nears AllBelow List.length items) fun fuel =>
      eachTurn frame name (pass fuel) items := by
  cases items with
  | nil => exact pure fun _ _ => trivial
  | cons item rest =>
      obtain ⟨first, others⟩ := List.forall_mem_cons.mp below
      refine (bindName name first).bind fun _ _ grown _ => (passes _).bind
        fun _ made later below => pure fun _ more => ⟨?_, fun next same => ?_⟩
      · cases made with
        | completed value => exact Value.Below.mono below more
        | _ => exact trivial
      · cases same
        exact ⟨AllBelow.mono others (Nat.le_trans grown (Nat.le_trans later more)),
          Nat.lt_succ_self _⟩

end Turns

theorem evalBound (bound : Data.LoopBound) {node : Node} (part : Masters self depth node) :
    Halts depth count noMatter fun fuel => evalBound (self fuel) frame bound node := by
  refine (part count frame).bind fun _ value _ _ => ?_
  cases value with
  | int n => exact pure fun _ _ => trivial
  | _ => exact (typeName _).bind fun _ _ _ _ => raise _

theorem evalStepBound {step : Option Node} (part : ∀ node ∈ step, Masters self depth node) :
    Halts depth count noMatter fun fuel => evalStepBound (self fuel) frame step := by
  cases step with
  | none => exact pure fun _ _ => trivial
  | some node => exact evalBound .step (part node rfl)

theorem evalStride {first last : Node} {step : Option Node} (one : Masters self depth first)
    (two : Masters self depth last) (three : ∀ node ∈ step, Masters self depth node) :
    Halts depth count noMatter fun fuel => evalStride (self fuel) frame first last step :=
  (evalBound .start one).bind fun _ _ _ _ => (evalBound .stop two).bind fun _ _ _ _ =>
    evalStepBound three

theorem evalEach (label : Option String) (name : String) {items body : Node} (block : Bool)
    (first : Masters self depth items) (part : Masters self depth body) :
    Halts depth count Value.Below fun fuel =>
      evalLoop (self fuel) fuel frame label (.each name items) body block := by
  have visited : Halts depth count AllBelow fun fuel =>
      runLoop (self fuel) fuel frame (.each name items)
        (Evaluation.runPass (self fuel) frame label body) := by
    refine (first count frame).bind fun more value _ _ => ?_
    have found : Halts depth more AllBelow fun _ =>
        Evaluation.check frame items.span fun heap => heap.items value :=
      check fun _ founded _ => .items founded.values value
    exact found.bind fun _ items _ held =>
      takeTurns AllBelow List.length
        (fun _ _ held => eachTurn (fun _ => runPass label part) name held) 0 held .nil
  exact visited.bind fun _ values _ held =>
    ite (fun _ => pure fun _ _ => trivial) fun _ => newList held

/-- A counted loop that exits instead of standing still. -/
def runSteady (self : Evaluator) (fuel : Nat) (frame : Frame) (counter : String)
    (first last : Node) (step : Option Node) (pass : Action Pass) : Action (List Value) := do
  let first ← Evaluation.evalBound self frame .start first
  let last ← Evaluation.evalBound self frame .stop last
  let step ← Evaluation.evalStepBound self frame step
  if step = 0 then throw (.signal (.exited 0))
  else Evaluation.takeTurns (Evaluation.countedTurn frame counter last step pass) fuel first []

theorem runSteady_halts (label : Option String) (counter : String) {first last body : Node}
    {step : Option Node} (one : Masters self depth first) (two : Masters self depth last)
    (three : ∀ node ∈ step, Masters self depth node) (part : Masters self depth body) :
    Halts depth count AllBelow fun fuel =>
      runSteady (self fuel) fuel frame counter first last step
        (Evaluation.runPass (self fuel) frame label body) := by
  refine (evalBound .start one).bind fun _ first _ _ => (evalBound .stop two).bind
    fun _ last _ _ => (evalStepBound three).bind fun _ step _ _ => ?_
  refine ite (fun _ => throwSignal trivial) fun moves => ?_
  exact takeTurns noMatter (distance last step)
    (fun _ current _ => countedTurn (fun _ => runPass label part) counter last moves current)
    0 trivial .nil

/-- A loop that does not stand still is steady. -/
theorem runLoop_of_moving {self : Evaluator} {fuel : Nat} {counter : String} {first last : Node}
    {step : Option Node} {pass : Action Pass} {machine : Machine}
    (moves : isStill (Evaluation.evalStride self frame first last step machine) = false) :
    runLoop self fuel frame (.counted counter first last step) pass machine =
      runSteady self fuel frame counter first last step pass machine := by
  unfold Evaluation.evalStride at moves
  simp only [runLoop, runSteady, bind_apply] at moves ⊢
  cases begun : Evaluation.evalBound self frame .start first machine with
  | error interrupt after => rfl
  | ok start between =>
      simp only [begun] at moves ⊢
      cases bounded : Evaluation.evalBound self frame .stop last between with
      | error interrupt after => rfl
      | ok stop later =>
          simp only [bounded] at moves ⊢
          cases stride : Evaluation.evalStepBound self frame step later with
          | error interrupt after => rfl
          | ok value after =>
              simp only [stride] at moves ⊢
              rw [if_neg (of_decide_eq_false moves)]

/-! ## Modules -/

theorem moduleBody (name : String) (document : Document) {program : Node}
    (part : Masters self depth program) :
    Halts depth count Bindings.Below fun fuel =>
      moduleBody (self fuel) frame span name document program := by
  have entered : Halts depth count noMatter fun _ =>
      Evaluation.create fun heap => heap.newScope .empty [preludeTable] :=
    create fun _ founded _ =>
      ⟨Heap.founded_newScope founded Bindings.below_empty _, Nat.le_refl _, trivial⟩
  have opened : ∀ more, Halts depth more noMatter fun _ =>
      Evaluation.create fun heap => heap.newExports := fun _ =>
    create fun _ founded _ => ⟨Heap.founded_newExports founded, Nat.le_refl _, trivial⟩
  simp only [Evaluation.moduleBody, openModule, bind_assoc, pure_bind]
  exact entered.bind fun _ _ _ _ => (opened _).bind fun _ exports _ _ =>
    (contain (part _ _)).bind fun _ _ _ _ =>
      readHeap fun _ founded _ => founded.values.exported exports

end Halts

namespace HaltsAt

variable {self : Nat → Evaluator} {settings : Settings} {depth count : Nat} {frame : Frame}
  {span : Span} {machine : Machine}

/-- The modules of the language itself have no classes. -/
theorem loadNative (sound : machine.Sound depth count) (name : String) :
    HaltsAt machine depth count Bindings.Below fun _ => loadNative frame span name := by
  have below : ∀ entry ∈ Data.mathConstants, entry.2.Below machine.heap.classes.size := by
    simp [Data.mathConstants, Value.Below]
  obtain ⟨founded, classes, exports⟩ := Heap.founded_installAll sound.founded
    (Bindings.below_empty.insertAll below) fun _ => List.mem_append_right Data.preludeFunctions
  refine ⟨_, 0, ?_, fun _ _ => rfl⟩
  unfold Evaluation.loadNative Heap.newNative?
  by_cases native : name = "math"
  · rw [if_pos native]
    have size := congrArg Array.size classes
    refine .value ⟨founded, sound.depth, ?_⟩ (exports.mono (Nat.le_of_eq size.symm))
    exact Nat.le_trans sound.classes (Nat.le_of_eq size.symm)
  · rw [if_neg native]
    exact .error sound

/-- A module halts one level deeper. -/
theorem loadModule (sound : machine.Sound depth count) (deeper : depth < settings.maxDepth →
      ∀ node : Node, node.Bounded → Masters self (depth + 1) node) {path : String}
    (bounded : ∀ text program, machine.files.readText path = .ok text →
      (Grammar.readProgram {} text).1 = .ok program → program.Bounded) (name : String) :
    HaltsAt machine depth count Bindings.Below fun fuel =>
      loadModule (self fuel) settings frame span name path := by
  cases read : machine.files.readText path with
  | error error =>
      refine ⟨raise frame span (.loadFailure name error.message) machine, 0, .error sound,
        fun _ _ => ?_⟩
      simp only [Follows.loadModule_apply, read]
  | ok text =>
      cases parsed : (Grammar.readProgram {} text).1 with
      | error error =>
          refine ⟨raiseUnreadable frame span name ⟨path, text⟩ error machine, 0, .error sound,
            fun _ _ => ?_⟩
          simp only [Follows.loadModule_apply, read, parsed]
      | ok program =>
          have body : Halts depth count Bindings.Below fun fuel =>
              runModule (self fuel) settings frame span name ⟨path, text⟩ program :=
            .withinCall fun room =>
              .moduleBody name ⟨path, text⟩ (deeper room program (bounded text program read parsed))
          refine (body machine sound).congr 0 fun _ _ => ?_
          simp only [Follows.loadModule_apply, read, parsed]

theorem evalImport (sound : machine.Sound depth count) (deeper : depth < settings.maxDepth →
      ∀ node : Node, node.Bounded → Masters self (depth + 1) node) {name : String}
    (bounded : (importedProgram? settings machine.files name).all Node.isBounded = true)
    (rename : Option String) :
    HaltsAt machine depth count Value.Below fun fuel =>
      evalImport (self fuel) settings frame span name rename := by
  have library : ∀ more (exports : Bindings Value), exports.Below more →
      Halts depth more Value.Below fun _ => (do
        let id ← create fun heap => heap.newLibrary ⟨name, exports⟩
        bindName frame (rename.getD name) (.library id)
        return .library id : Action Value) := by
    intro more exports below
    have made : Halts depth more noMatter fun _ =>
        create fun heap => heap.newLibrary ⟨name, exports⟩ :=
      .create fun heap founded later =>
        ⟨Heap.founded_newLibrary founded (below.mono later), Nat.le_refl _, trivial⟩
    refine made.bind fun more id _ _ => ?_
    have bound : Value.Below more (.library id) := trivial
    exact (Halts.bindName _ bound).bind fun _ _ _ _ => .pure fun _ _ => trivial
  cases found : (moduleFiles settings name).find? machine.files.isFile with
  | none =>
      have loaded : HaltsAt machine depth count Bindings.Below fun _ =>
          Evaluation.loadNative frame span name := loadNative sound name
      refine (loaded.bind fun more exports _ held => library more exports held).congr 0
        fun fuel _ => ?_
      simp only [Evaluation.evalImport, bind_apply, findModule?, found]
  | some path =>
      have inside : ∀ text program, machine.files.readText path = .ok text →
          (Grammar.readProgram {} text).1 = .ok program → program.Bounded := by
        intro text program read parsed
        rw [Follows.importedProgram?_of_found found read parsed] at bounded
        exact Node.bounded_of_isBounded bounded
      have loaded : HaltsAt machine depth count Bindings.Below fun fuel =>
          Evaluation.loadModule (self fuel) settings frame span name path :=
        loadModule sound deeper inside name
      refine (loaded.bind fun more exports _ held => library more exports held).congr 0
        fun fuel _ => ?_
      simp only [Evaluation.evalImport, bind_apply, findModule?, found]

end HaltsAt

theorem Halts.evalExport {self : Nat → Evaluator} {depth count : Nat} {frame : Frame}
    {node : Node} (part : Masters self depth node) (name : String) :
    Halts depth count Value.Below fun fuel => evalExport (self fuel) frame node name := by
  refine (part count frame).bind fun more value _ below => ?_
  cases frame.exports with
  | none => exact pure fun _ later => below.mono later
  | some exports =>
      have added : Halts depth more noMatter fun _ =>
          Evaluation.changeHeap fun heap => heap.addExport exports name value :=
        changeHeap fun _ founded later =>
          ⟨Heap.founded_addExport founded exports name (below.mono later), rfl⟩
      exact added.bind fun _ _ grown _ => pure fun _ later => below.mono (Nat.le_trans grown later)

end Evaluation
end Scripting
