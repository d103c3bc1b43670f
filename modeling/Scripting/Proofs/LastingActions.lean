import Scripting.Proofs.CallDepth
import Scripting.Proofs.HeededSignals
import Scripting.Proofs.TameHeaps

namespace Scripting
namespace Evaluation

/-!
Actions that leave all lists as they are.

From a tame heap an action lasts if it leaves a tame heap in which every list has the elements
that it had before, and if it hands out nothing that could change a list later.  All elementary
actions are of this kind, except the six functions that change lists.
-/

open Data (Arguments Bindings Fault Heap Operation Product TameArguments Value Yields changerNames)
open Program (AssignOp BinaryOp Node)
open Source (Document Span)

/-- A return carries a value out of a function. -/
def Interrupt.Tame : Interrupt → Prop
  | .signal (.returned value _) => value.Tame
  | _ => True

/-- What an action hands out, in one way or the other. -/
def Gives {α : Type} (good : α → Prop) : Ending α → Prop
  | .ok value _ => good value
  | .error interrupt _ => interrupt.Tame

/-- An ending that leaves a tame heap, with the lists of an earlier one as they were. -/
structure Lasting (before : Heap) {α : Type} (good : α → Prop) (ending : Ending α) : Prop where
  tame : (finalMachine ending).heap.Tame
  kept : before.ListsKept (finalMachine ending).heap
  gives : Gives good ending

/-- From every tame heap an action ends in this way. -/
def Lasts {α : Type} (action : Action α) (good : α → Prop) : Prop :=
  ∀ machine, machine.heap.Tame → Lasting machine.heap good (action machine)

/-- A pass through the body of a loop may have a value. -/
def Pass.Tame : Pass → Prop
  | .completed value => value.Tame
  | _ => True

variable {α β : Type}

/-! ## Endings -/

namespace Lasting

variable {before earlier : Heap} {good : α → Prop} {ending : Ending α}

/-- What is kept from some heap on is kept from an earlier one on. -/
theorem since (lasting : Lasting before good ending) (kept : earlier.ListsKept before) :
    Lasting earlier good ending :=
  { lasting with kept := kept.trans lasting.kept }

/-- Nothing changes after the end. -/
theorem settled (lasting : Lasting before good ending) :
    Lasting (finalMachine ending).heap good ending :=
  { lasting with kept := .refl _ }

variable {action : Action Value} {machine : Machine}

theorem answering (label : Option String) (lasting : Lasting before Value.Tame (action machine)) :
    Lasting before Pass.Tame (answering label action machine) := by
  have same := finalMachine_answering label action machine
  refine ⟨same ▸ lasting.tame, same ▸ lasting.kept, ?_⟩
  have gives := lasting.gives
  unfold Evaluation.answering
  split
  · rename_i ended
    rw [ended] at gives
    exact gives
  · rename_i jump _ _ _ _
    cases jump <;> split <;> trivial
  · rename_i ended
    rw [ended] at gives
    exact gives

/-- What is returned to a call is given by it. -/
theorem catchReturn (frame : Frame) (lasting : Lasting before Value.Tame (action machine)) :
    Lasting before Value.Tame (catchReturn frame action machine) := by
  have same := finalMachine_catchReturn frame action machine
  refine ⟨same ▸ lasting.tame, same ▸ lasting.kept, ?_⟩
  have gives := lasting.gives
  unfold Evaluation.catchReturn
  generalize action machine = ending at gives
  rcases ending with _ | ⟨_ | ⟨_ | _ | _⟩ | _, _⟩
  all_goals exact gives

theorem contain (frame : Frame) (lasting : Lasting before Value.Tame (action machine)) :
    Lasting before Value.Tame (contain frame action machine) := by
  have same := finalMachine_contain frame action machine
  refine ⟨same ▸ lasting.tame, same ▸ lasting.kept, ?_⟩
  have gives := lasting.gives
  unfold Evaluation.contain
  generalize action machine = ending at gives
  rcases ending with _ | ⟨_ | ⟨_ | _ | _⟩ | _, _⟩
  all_goals first | exact gives | trivial

theorem endOfCall (lasting : Lasting before good ending) :
    Lasting before good (endOfCall ending) := by
  cases ending with
  | ok value after => exact ⟨lasting.tame, lasting.kept, lasting.gives⟩
  | error interrupt after => exact ⟨lasting.tame, lasting.kept, lasting.gives⟩

end Lasting

/-! ## Actions -/

namespace Lasts

variable {good : α → Prop} {frame : Frame} {span : Span}

theorem pure {value : α} (holds : good value) : Lasts (Pure.pure value) good :=
  fun _ tame => ⟨tame, .refl _, holds⟩

theorem bind {action : Action α} {next : α → Action β} {good' : β → Prop}
    (first : Lasts action good) (rest : ∀ value, good value → Lasts (next value) good') :
    Lasts (action >>= next) good' := by
  intro machine tame
  have lasting := first machine tame
  rw [bind_apply]
  generalize action machine = ending at lasting
  cases ending with
  | ok value between => exact (rest value lasting.gives between lasting.tame).since lasting.kept
  | error interrupt after => exact ⟨lasting.tame, lasting.kept, lasting.gives⟩

/-- A sequence in which it does not matter what the first action gives. -/
theorem andThen {action : Action α} {next : α → Action β} {good : β → Prop}
    (first : Lasts action anything) (rest : ∀ value, Lasts (next value) good) :
    Lasts (action >>= next) good :=
  first.bind fun value _ => rest value

theorem ite {condition : Prop} [Decidable condition] {yes no : Action α}
    (positive : Lasts yes good) (negative : Lasts no good) :
    Lasts (if condition then yes else no) good := by
  by_cases decided : condition
  · rw [if_pos decided]
    exact positive
  · rw [if_neg decided]
    exact negative

theorem raise {fault : Fault} : Lasts (raise frame span fault) good :=
  fun _ tame => ⟨tame, .refl _, trivial⟩

theorem crash (crash : Crash) : Lasts (throw (.crashed crash)) good :=
  fun _ tame => ⟨tame, .refl _, trivial⟩

theorem outOfFuel : Lasts (throw .outOfFuel) good :=
  fun _ tame => ⟨tame, .refl _, trivial⟩

/-- Only what an operation gives matters, since it changes nothing. -/
theorem check {operation : Heap → Except Fault α}
    (yields : ∀ heap : Heap, heap.Tame → Yields good (operation heap)) :
    Lasts (check frame span operation) good := by
  intro machine tame
  have result := yields machine.heap tame
  unfold Evaluation.check
  cases found : operation machine.heap with
  | ok value =>
      rw [found] at result
      exact ⟨tame, .refl _, result⟩
  | error fault => exact ⟨tame, .refl _, trivial⟩

/-! ### The heap, the console and files -/

theorem readHeap {look : Heap → α} (holds : ∀ heap : Heap, heap.Tame → good (look heap)) :
    Lasts (readHeap look) good :=
  fun machine tame => ⟨tame, .refl _, holds machine.heap tame⟩

/-- Something that is read off the heap, whatever it is. -/
theorem look {look : Heap → α} : Lasts (Evaluation.readHeap look) anything :=
  readHeap fun _ _ => trivial

theorem create {make : Heap → α × Heap}
    (made : ∀ heap : Heap, heap.Tame → good (make heap).1 ∧ (make heap).2.Tame)
    (kept : ∀ heap : Heap, heap.ListsKept (make heap).2) : Lasts (create make) good :=
  fun machine tame =>
    ⟨(made machine.heap tame).2, kept machine.heap, (made machine.heap tame).1⟩

theorem changeHeap {change : Heap → Heap} (stays : ∀ heap : Heap, heap.Tame → (change heap).Tame)
    (kept : ∀ heap, (change heap).lists = heap.lists) : Lasts (changeHeap change) anything :=
  fun machine tame => ⟨stays machine.heap tame, .of_eq (kept machine.heap), trivial⟩

theorem newList {items : List Value} (added : ∀ item ∈ items, item.Tame) :
    Lasts (newList items) Value.Tame :=
  (create (fun _ tame => ⟨trivial, tame.newList added⟩) fun heap => .newList heap items).andThen
    fun _ => pure trivial

theorem realize {product : Product} {heap : Heap} (given : product.All heap Value.Tame) :
    Lasts (realize product) Value.Tame := by
  cases product with
  | value made => exact pure (Value.tame_of_isPlain given)
  | list items => exact newList given
  | overgrown overgrowth => exact crash _

theorem bindName (name : String) {value : Value} (added : value.Tame) :
    Lasts (bindName frame name value) anything :=
  changeHeap (fun _ tame => tame.bind _ fun _ => added) fun _ => rfl

theorem openScope {bindings : Bindings Value} (held : bindings.Tame) (enclosing : Data.Scope) :
    Lasts (openScope bindings enclosing) anything :=
  create (fun _ tame => ⟨trivial, tame.newScope held _⟩) fun _ => .of_eq rfl

theorem printText (text : String) : Lasts (printText frame span text) anything := by
  intro machine tame
  unfold Evaluation.printText
  cases machine.console.write? text with
  | some console => exact ⟨tame, .refl _, trivial⟩
  | none => exact ⟨tame, .refl _, trivial⟩

theorem readLine : Lasts (readLine frame span) anything := by
  intro machine tame
  simp only [Evaluation.readLine]
  cases machine.console.readLine.1 with
  | ok line => exact ⟨tame, .refl _, trivial⟩
  | error error => exact ⟨tame, .refl _, trivial⟩

theorem raiseTyped {value : Value} {fault : String → Fault} :
    Lasts (do Evaluation.raise frame span (fault (← typeName value))) good :=
  look.andThen fun _ => raise

theorem raiseUndefined (name : String) : Lasts (raiseUndefined frame span name) good :=
  look.andThen fun _ => raise

theorem lookUp {name : String} (other : name ∉ changerNames) :
    Lasts (lookUp frame span name) Value.Tame := by
  have found : Lasts (Evaluation.readHeap fun heap => heap.lookup? frame.scope name)
      fun found => ∀ value ∈ found, value.Tame :=
    readHeap fun heap tame value there => tame.lookup? other there
  refine found.bind fun result holds => ?_
  cases result with
  | some value => exact pure (holds value rfl)
  | none => exact raiseUndefined name

theorem raiseFile (target : String) (error : Files.FileError) :
    Lasts (raiseFile frame span target error) good := by
  cases error <;> exact raise

theorem writeFile (settings : Settings) (target text : String) (overwrite : Bool)
    (line : Option Nat) :
    Lasts (writeFile settings frame span target text overwrite line) anything := by
  intro machine tame
  unfold Evaluation.writeFile
  cases writtenFiles machine.files (settings.resolve target) text overwrite line with
  | ok files => exact ⟨tame, .refl _, trivial⟩
  | error error => exact raiseFile target error machine tame

theorem readFile (settings : Settings) (target : String) (line : Option Nat) :
    Lasts (readFile settings frame span target line) anything := by
  have machine : Lasts (get : Action Machine) anything := fun _ tame => ⟨tame, .refl _, trivial⟩
  refine machine.andThen fun machine => ?_
  split
  · exact raiseFile target _
  · exact pure trivial
  · split
    · exact pure trivial
    · exact raise

theorem keepText (name : Option String) (text : String) :
    Lasts (keepText frame name text) Value.Tame := by
  cases name with
  | some name =>
      have added : (Value.text text).Tame := trivial
      exact (bindName name added).andThen fun _ => pure added
  | none => exact pure trivial

theorem withinCall {settings : Settings} {action : Action α} (lasts : Lasts action good) :
    Lasts (withinCall settings frame span action) good := by
  intro machine tame
  unfold Evaluation.withinCall
  split
  · exact raise machine tame
  · exact (lasts { machine with depth := machine.depth + 1 } tame).endOfCall

/-! ### Functions of the language -/

section Builtins

variable {call : BuiltinCall}

theorem raiseAt {fault : Fault} (ordinal : Nat) : Lasts (call.raiseAt ordinal fault) good := by
  unfold BuiltinCall.raiseAt
  cases call.site.arguments[ordinal - 1]? with
  | some span => exact raise
  | none => exact raise

theorem mismatch (ordinal : Nat) (expected : String) (value : Value) :
    Lasts (call.mismatch ordinal expected value) good :=
  look.andThen fun _ => raiseAt ordinal

theorem intAt (ordinal : Nat) (value : Value) : Lasts (call.intAt ordinal value) anything := by
  unfold BuiltinCall.intAt
  split
  · exact pure trivial
  · exact mismatch ordinal _ value

theorem textAt (ordinal : Nat) (value : Value) : Lasts (call.textAt ordinal value) anything := by
  unfold BuiltinCall.textAt
  split
  · exact pure trivial
  · exact mismatch ordinal _ value

theorem numberAt (ordinal : Nat) (value : Value) :
    Lasts (call.numberAt ordinal value) anything := by
  unfold BuiltinCall.numberAt
  split
  · exact pure trivial
  · exact mismatch ordinal _ value

theorem runExit (code : Value) : Lasts (runExit call code) Value.Tame :=
  (intAt 1 code).andThen fun _ _ tame => ⟨tame, .refl _, trivial⟩

theorem runReal (compute : Float → Float) (value : Value) :
    Lasts (runReal call compute value) Value.Tame :=
  (numberAt 1 value).andThen fun _ => pure trivial

theorem runRound (round : Float → Float) (value : Value) :
    Lasts (runRound call round value) Value.Tame := by
  unfold Evaluation.runRound
  split
  · exact pure trivial
  · exact (numberAt 1 value).andThen fun _ =>
      check fun _ _ => .toInt_all (fun _ => Value.tame_of_isPlain) _

theorem runAbs (value : Value) : Lasts (runAbs call value) Value.Tame := by
  unfold Evaluation.runAbs
  split
  · rename_i n
    cases Number.fit? n.toInt.natAbs with
    | some word => exact pure trivial
    | none => exact raise
  · exact runReal Float.abs _

/-- Apart from the six that change lists, functions of the language leave all lists alone. -/
theorem runOperation {operation : Operation} (harmless : operation.changesList = false)
    (arguments : Arguments) : Lasts (runOperation call operation arguments) Value.Tame := by
  have plain : ∀ value : Value, value.IsPlain → value.Tame := fun _ => Value.tame_of_isPlain
  unfold Evaluation.runOperation
  split
  · exact look.andThen fun _ => (printText _).andThen fun _ => pure trivial
  · exact look.andThen fun _ => (printText _).andThen fun _ => readLine.andThen fun _ => pure trivial
  · exact look.andThen fun _ => pure trivial
  · exact look.andThen fun _ => pure trivial
  · exact check fun heap _ => .toInt_all plain _
  · exact check fun heap _ => .toFloat_all plain _
  · exact (check fun heap tame => .toItems_all plain tame.list _).bind fun items => newList
  · exact (check fun heap _ => .any _).andThen fun _ => pure trivial
  · cases harmless
  · cases harmless
  · cases harmless
  · cases harmless
  · cases harmless
  · cases harmless
  · exact (textAt 1 _).andThen fun _ => look.andThen fun _ => pure trivial
  · exact runExit _
  · exact (numberAt 1 _).andThen fun _ => ite (raiseAt 1) (pure trivial)
  · exact runRound _ _
  · exact runRound _ _
  · exact runReal _ _
  · exact runReal _ _
  · exact runAbs _
  · exact crash _

theorem callBuiltin {id : Data.BuiltinId} (other : (Value.builtin id).Tame) (settings : Settings)
    (arguments : List (Option Value)) (site : CallSite) :
    Lasts (callBuiltin settings id arguments site) Value.Tame := by
  have found : Lasts (Evaluation.readHeap fun heap => heap.builtin id)
      fun builtin => builtin.operation.changesList = false :=
    readHeap fun heap tame => tame.harmless other
  refine found.bind fun builtin harmless => ?_
  exact (check fun _ _ => .any _).andThen fun bound => withinCall (runOperation harmless bound)

end Builtins

/-! ### Forms without parts -/

theorem evalInspect {name : String} (other : name ∉ changerNames) :
    Lasts (evalInspect frame span name) Value.Tame :=
  (lookUp other).bind fun _ tame => look.andThen fun _ => (printText _).andThen fun _ => pure tame

theorem applyBinary (op : BinaryOp) (left : Value) {right : Value} (given : right.Tame) :
    Lasts (applyBinary frame span op left right) Value.Tame := by
  have product : Lasts (Evaluation.check frame span fun heap => heap.binary op left right)
      fun product => ∃ heap, product.All heap Value.Tame :=
    check fun heap tame => (Yields.binary_all tame.list op given).mono fun _ all => ⟨heap, all⟩
  exact product.bind fun _ all => all.elim fun _ => realize

theorem combine {current : Action Value} (old : Lasts current Value.Tame) (op : AssignOp)
    {value : Value} (given : value.Tame) :
    Lasts (combine frame span op current value) Value.Tame := by
  cases op with
  | set => exact pure given
  | compound op => exact old.bind fun old _ => applyBinary op old given

theorem assignName {name : String} (other : name ∉ changerNames) (op : AssignOp) {value : Value}
    (given : value.Tame) : Lasts (assignName frame span name op value) Value.Tame :=
  (combine (lookUp other) op given).bind fun _ tame =>
    (bindName name tame).andThen fun _ => pure tame

theorem storedAttribute (id : Data.ObjectId) {name : String} (other : name ∉ changerNames) :
    Lasts (storedAttribute frame span id name) Value.Tame := by
  have found : Lasts (Evaluation.readHeap fun heap => (heap.object id).attributes.get? name)
      fun found => ∀ value ∈ found, value.Tame :=
    readHeap fun heap tame value there => (tame.object id).get? other there
  refine found.bind fun result holds => ?_
  cases result with
  | some value => exact pure (holds value rfl)
  | none => exact raiseTyped

theorem assignAttribute (owner : Value) {name : String} (other : name ∉ changerNames)
    (op : AssignOp) {value : Value} (given : value.Tame) :
    Lasts (assignAttribute frame span owner name op value) Value.Tame := by
  unfold Evaluation.assignAttribute
  split
  · rename_i id
    refine (combine (storedAttribute id other) op given).bind fun assigned tame => ?_
    exact (changeHeap (fun _ clean => clean.setAttribute id fun _ => tame) fun _ => rfl).andThen
      fun _ => pure tame
  · exact raiseTyped

theorem evalDelete {name : String} (other : name ∉ changerNames) :
    Lasts (evalDelete frame span name) Value.Tame := by
  have found : Lasts (Evaluation.readHeap fun heap => (heap.table frame.scope.inner).get? name)
      fun found => ∀ value ∈ found, value.Tame :=
    readHeap fun heap tame value there => (tame.table _).get? other there
  refine found.bind fun result holds => ?_
  cases result with
  | some value =>
      exact (changeHeap (fun _ tame => tame.unbind _ name) fun _ => rfl).andThen
        fun _ => pure (holds value rfl)
  | none => exact raiseUndefined name

theorem evalJump (jump : Data.Jump) (label : Option String) :
    Lasts (evalJump frame span jump label) Value.Tame :=
  fun _ tame => ⟨tame, .refl _, trivial⟩

theorem evalFunction {optional : List (String × Node)} {body : Node}
    (inside : body.Avoids changerNames)
    (defaults : ∀ parameter ∈ optional, parameter.2.Avoids changerNames) (name : Option String)
    (required : List String) (arrow : Bool) :
    Lasts (evalFunction frame name required optional body arrow) Value.Tame := by
  have made : ∀ id, (Value.function id).Tame := fun _ => trivial
  refine (create (fun _ tame => ⟨trivial, tame.newFunction ⟨inside, defaults⟩⟩)
    fun _ => .of_eq rfl).andThen fun id => ?_
  cases name with
  | some name => exact (bindName name (made id)).andThen fun _ => pure (made id)
  | none => exact pure (made id)

theorem bindRequired {site : CallSite} {function : Data.Function} (parameters : List String)
    {arguments : List (Option Value)} (given : TameArguments arguments) :
    Lasts (bindRequired site frame function parameters arguments) TameArguments := by
  induction parameters generalizing arguments with
  | nil => exact pure given
  | cons parameter rest ih =>
      match arguments, given with
      | some value :: others, given =>
          obtain ⟨first, later⟩ := List.forall_mem_cons.mp given
          exact (bindName parameter (first value rfl)).andThen fun _ => ih later
      | none :: _, _ => exact raise
      | [], _ => exact raise

theorem callSequence (sequence : Value) (arguments : List (Option Value)) (site : CallSite) :
    Lasts (callSequence sequence arguments site) Value.Tame := by
  unfold Evaluation.callSequence
  split
  · exact check fun _ tame => .element_all (fun _ => Value.tame_of_isPlain) tame.list _ _
  · exact raiseTyped

theorem newInstance (id : Data.ClassId) : Lasts (newInstance id) anything :=
  create (fun _ tame => ⟨trivial, tame.newObject (tame.instanceAttributes id)⟩) fun _ => .of_eq rfl

theorem raiseUnreadable (name : String) (document : Document) (error : Grammar.SourceError) :
    Lasts (raiseUnreadable frame span name document error) good :=
  fun _ tame => ⟨tame, .refl _, trivial⟩

theorem loadNative (name : String) : Lasts (loadNative frame span name) Bindings.Tame := by
  intro machine tame
  unfold Evaluation.loadNative
  cases found : machine.heap.newNative? name with
  | some made =>
      obtain ⟨exports, after⟩ := tame.newNative? found
      exact ⟨after, .newNative? found, exports⟩
  | none => exact raise machine tame

end Lasts

end Evaluation
end Scripting
