import Scripting.Proofs.Composition
import Scripting.Proofs.PlacedOperations

namespace Scripting
namespace Evaluation

/-!
Actions inside other surroundings.

An action is carried into other surroundings if it does there what it does at home, with
everything in its place: it gives the same value or is interrupted in the same way, prints the
same text, reads the same input and changes the same files.  Frames that are entered at home
have their trails continued by the one that leads into the surroundings.
-/

open Data (Bindings Fault Heap Operation Product Scope Surroundings Value)
open Source (Span)

/-- A trail whose first frame is reached by another one. -/
def Trail.graft (base : Trail) : Trail → Trail
  | .root _ => base
  | .entered name caller document position => .entered name (base.graft caller) document position

/-- What surrounds a run: a heap, the text that was printed before, and the way to the run. -/
structure Host extends Surroundings where
  output : String
  trail : Trail

namespace Host

variable (host : Host)

def machine (machine : Machine) : Machine :=
  { machine with
    heap := host.heap machine.heap
    console := { machine.console with output := host.output ++ machine.console.output } }

def frame (frame : Frame) : Frame where
  trail := host.trail.graft frame.trail
  scope := host.scope frame.scope
  exports := frame.exports.map host.exports
  document := frame.document

def site (site : CallSite) : CallSite :=
  ⟨host.frame site.frame, site.span, site.arguments⟩

def signal : Signal → Signal
  | .returned value place => .returned (host.value value) place
  | .jumped jump label place => .jumped jump label place
  | .exited code => .exited code

def interrupt : Interrupt → Interrupt
  | .error error => .error { error with trail := host.trail.graft error.trail }
  | .signal signal => .signal (host.signal signal)
  | .crashed crash => .crashed crash
  | .outOfFuel => .outOfFuel

def ending {α β : Type} (place : α → β) : Ending α → Ending β
  | .ok value machine => .ok (place value) (host.machine machine)
  | .error interrupt machine => .error (host.interrupt interrupt) (host.machine machine)

end Host

/-- An action does in its surroundings what another one does at home. -/
structure Carries (host : Host) {α β : Type} (place : α → β) (action : Action α)
    (action' : Action β) : Prop where
  same : ∀ machine, host.Stocked machine.heap →
    action' (host.machine machine) = host.ending place (action machine)
  stocked : ∀ machine, host.Stocked machine.heap →
    host.Stocked (finalMachine (action machine)).heap

variable {host : Host} {α β γ δ : Type} {place : α → β} {frame : Frame} {span : Span}

namespace Carries

theorem pure (value : α) : Carries host place (Pure.pure value) (Pure.pure (place value)) where
  same _ _ := rfl
  stocked _ stocked := stocked

theorem bind {place' : γ → δ} {action : Action α} {action' : Action β} {next : α → Action γ}
    {next' : β → Action δ} (first : Carries host place action action')
    (rest : ∀ value, Carries host place' (next value) (next' (place value))) :
    Carries host place' (action >>= next) (action' >>= next') where
  same machine stocked := by
    have kept := first.stocked machine stocked
    rw [bind_apply, bind_apply, first.same machine stocked]
    cases ended : action machine with
    | ok value after =>
        rw [ended] at kept
        exact (rest value).same after kept
    | error interrupt after => rfl
  stocked machine stocked := by
    have kept := first.stocked machine stocked
    rw [bind_apply]
    cases ended : action machine with
    | ok value after =>
        rw [ended] at kept
        exact (rest value).stocked after kept
    | error interrupt after =>
        rw [ended] at kept
        exact kept

/-- A choice made alike on both sides. -/
theorem ite {condition : Prop} [Decidable condition] {yes no : Action α} {yes' no' : Action β}
    (positive : condition → Carries host place yes yes')
    (negative : ¬ condition → Carries host place no no') :
    Carries host place (if condition then yes else no) (if condition then yes' else no') := by
  by_cases decided : condition
  · rw [if_pos decided, if_pos decided]
    exact positive decided
  · rw [if_neg decided, if_neg decided]
    exact negative decided

theorem raise (fault : Fault) :
    Carries host place (raise frame span fault)
      (Evaluation.raise (host.frame frame) span fault) where
  same _ _ := rfl
  stocked _ stocked := stocked

theorem throwSignal (signal : Signal) :
    Carries host place (throw (.signal signal) : Action α)
      (throw (.signal (host.signal signal))) where
  same _ _ := rfl
  stocked _ stocked := stocked

theorem crash (crash : Crash) :
    Carries host place (throw (.crashed crash) : Action α) (throw (.crashed crash)) where
  same _ _ := rfl
  stocked _ stocked := stocked

theorem outOfFuel : Carries host place (throw .outOfFuel : Action α) (throw .outOfFuel) where
  same _ _ := rfl
  stocked _ stocked := stocked

/-! ## The heap -/

theorem check {operation : Heap → Except Fault α} {operation' : Heap → Except Fault β}
    (agree : ∀ heap, host.Stocked heap →
      operation' (host.heap heap) = (operation heap).map place) :
    Carries host place (check frame span operation)
      (Evaluation.check (host.frame frame) span operation') where
  same machine stocked := by
    have found : operation' (host.machine machine).heap = (operation machine.heap).map place :=
      agree machine.heap stocked
    unfold Evaluation.check
    rw [found]
    cases operation machine.heap <;> rfl
  stocked machine stocked := by
    unfold Evaluation.check
    cases operation machine.heap <;> exact stocked

theorem readHeap {look : Heap → α} {look' : Heap → β}
    (agree : ∀ heap, host.Stocked heap → look' (host.heap heap) = place (look heap)) :
    Carries host place (readHeap look) (Evaluation.readHeap look') where
  same machine stocked := congrArg (EStateM.Result.ok · (host.machine machine))
    (agree machine.heap stocked)
  stocked _ stocked := stocked

theorem changeHeap {change change' : Heap → Heap}
    (agree : ∀ heap, host.Stocked heap → change' (host.heap heap) = host.heap (change heap))
    (kept : ∀ heap, host.Stocked heap → host.Stocked (change heap)) :
    Carries host id (changeHeap change) (Evaluation.changeHeap change') where
  same machine stocked := by
    unfold Evaluation.changeHeap
    have changed := agree machine.heap stocked
    simp only [Host.ending, Host.machine, changed]
  stocked machine stocked := kept machine.heap stocked

theorem create {make : Heap → α × Heap} {make' : Heap → β × Heap}
    (agree : ∀ heap, host.Stocked heap →
      make' (host.heap heap) = (place (make heap).1, host.heap (make heap).2))
    (kept : ∀ heap, host.Stocked heap → host.Stocked (make heap).2) :
    Carries host place (create make) (Evaluation.create make') where
  same machine stocked := by
    unfold Evaluation.create
    have made := agree machine.heap stocked
    simp only [Host.ending, Host.machine, made]
  stocked machine stocked := kept machine.heap stocked

theorem newList (items : List Value) :
    Carries host host.value (newList items) (Evaluation.newList (host.values items)) := by
  have made : Carries host host.list (Evaluation.create fun heap => heap.newList items)
      (Evaluation.create fun heap => heap.newList (host.values items)) :=
    create (fun heap _ => host.newList_heap heap items) fun _ stocked => ⟨stocked.1, stocked.2⟩
  exact made.bind fun id => pure (Value.list id)

theorem realize (product : Product) :
    Carries host host.value (realize product) (Evaluation.realize (host.product product)) := by
  cases product with
  | value made => exact pure made
  | list items => exact newList items
  | overgrown overgrowth => exact crash _

theorem typeName (value : Value) :
    Carries host id (typeName value) (Evaluation.typeName (host.value value)) :=
  readHeap fun _ _ => Surroundings.typeName_heap value

theorem isTruthy (value : Value) :
    Carries host id (isTruthy value) (Evaluation.isTruthy (host.value value)) :=
  readHeap fun _ _ => Surroundings.isTruthy_heap value

theorem display (value : Value) :
    Carries host id (Evaluation.readHeap fun heap => heap.display value)
      (Evaluation.readHeap fun heap => heap.display (host.value value)) :=
  readHeap fun _ stocked => Surroundings.display_heap stocked value

/-- A fault that names the type of a value. -/
theorem raiseTyped (value : Value) (fault : String → Fault) :
    Carries host place
      (Evaluation.typeName value >>= fun type => Evaluation.raise frame span (fault type))
      (Evaluation.typeName (host.value value) >>= fun type =>
        Evaluation.raise (host.frame frame) span (fault type)) :=
  (typeName value).bind fun _ => raise _

/-! ## Names -/

theorem bindName (name : String) (value : Value) :
    Carries host id (bindName frame name value)
      (Evaluation.bindName (host.frame frame) name (host.value value)) := by
  refine changeHeap (fun heap stocked => ?_) fun heap stocked => ?_
  · exact Surroundings.bind_heap stocked frame.scope.inner name value
  · refine ⟨?_, stocked.functions⟩
    simp only [Heap.bind, Array.size_modify]
    exact stocked.prelude

theorem raiseUndefined (name : String) :
    Carries host place (raiseUndefined frame span name)
      (Evaluation.raiseUndefined (host.frame frame) span name) := by
  have suggested : Carries host id
      (Evaluation.readHeap fun heap => heap.suggest? frame.scope name)
      (Evaluation.readHeap fun heap => heap.suggest? (host.frame frame).scope name) :=
    readHeap fun _ stocked => Surroundings.suggest?_heap stocked frame.scope name
  exact suggested.bind fun _ => raise _

theorem lookUp (name : String) :
    Carries host host.value (lookUp frame span name)
      (Evaluation.lookUp (host.frame frame) span name) := by
  have found : Carries host (Option.map host.value)
      (Evaluation.readHeap fun heap => heap.lookup? frame.scope name)
      (Evaluation.readHeap fun heap => heap.lookup? (host.frame frame).scope name) :=
    readHeap fun _ stocked => Surroundings.lookup?_heap stocked frame.scope name
  refine found.bind fun value => ?_
  cases value with
  | some value => exact pure value
  | none => exact raiseUndefined name

theorem newScope (bound : Bindings Value) (enclosing : List Data.TableId) :
    Carries host host.scope (Evaluation.create fun heap => heap.newScope bound enclosing)
      (Evaluation.create fun heap =>
        heap.newScope (host.bindings bound) (enclosing.map host.table)) := by
  refine create (fun heap stocked => ?_) fun heap stocked => ?_
  · exact Surroundings.newScope_heap stocked bound enclosing
  · refine ⟨?_, stocked.functions⟩
    simp only [Heap.newScope, Heap.newTable, Array.size_push]
    exact Nat.le_succ_of_le stocked.prelude

theorem openScope (bound : Bindings Value) (enclosing : Scope) :
    Carries host host.scope (openScope bound enclosing)
      (Evaluation.openScope (host.bindings bound) (host.scope enclosing)) :=
  newScope bound enclosing.tables

/-! ## The console and files -/

theorem printText (text : String) :
    Carries host id (printText frame span text)
      (Evaluation.printText (host.frame frame) span text) where
  same machine _ := by
    have written : (host.machine machine).console.write? text =
        (machine.console.write? text).map fun console =>
          { console with output := host.output ++ console.output } := by
      rcases machine with ⟨heap, depth, ⟨output, left, input⟩, files⟩
      simp only [Console.write?, Host.machine]
      split
      · rfl
      · match left with
        | none => simp only [Option.map_some, String.append_assoc]
        | some 0 => rfl
        | some (left + 1) => simp only [Option.map_some, String.append_assoc]
    unfold Evaluation.printText
    rw [written]
    cases machine.console.write? text <;> rfl
  stocked machine stocked := by
    unfold Evaluation.printText
    cases machine.console.write? text <;> exact stocked

theorem readLine : Carries host id (readLine frame span)
    (Evaluation.readLine (host.frame frame) span) where
  same machine _ := by
    have read : (host.machine machine).console.readLine =
        (machine.console.readLine.1,
          { machine.console.readLine.2 with output := host.output ++ machine.console.output }) :=
      rfl
    have untouched : machine.console.readLine.2.output = machine.console.output := rfl
    unfold Evaluation.readLine
    rw [read]
    simp only
    cases machine.console.readLine.1 <;> rfl
  stocked machine stocked := by
    unfold Evaluation.readLine
    simp only
    cases machine.console.readLine.1 <;> exact stocked

theorem raiseFile (target : String) (error : Files.FileError) :
    Carries host place (raiseFile frame span target error)
      (Evaluation.raiseFile (host.frame frame) span target error) := by
  cases error <;> exact raise _

theorem writeFile (settings : Settings) (target text : String) (overwrite : Bool)
    (line : Option Nat) :
    Carries host id (writeFile settings frame span target text overwrite line)
      (Evaluation.writeFile settings (host.frame frame) span target text overwrite line) where
  same machine stocked := by
    have files : (host.machine machine).files = machine.files := rfl
    unfold Evaluation.writeFile
    rw [files]
    cases writtenFiles machine.files (settings.resolve target) text overwrite line with
    | ok files => rfl
    | error error => exact (raiseFile target error).same machine stocked
  stocked machine stocked := by
    unfold Evaluation.writeFile
    cases writtenFiles machine.files (settings.resolve target) text overwrite line with
    | ok files => exact stocked
    | error error => cases error <;> exact stocked

theorem readFile (settings : Settings) (target : String) (line : Option Nat) :
    Carries host id (readFile settings frame span target line)
      (Evaluation.readFile settings (host.frame frame) span target line) := by
  have files : Carries host host.machine (MonadState.get : Action Machine) MonadState.get :=
    ⟨fun _ _ => rfl, fun _ stocked => stocked⟩
  refine files.bind fun machine => ?_
  have same : (host.machine machine).files = machine.files := rfl
  rw [same]
  cases machine.files.readText (settings.resolve target) with
  | error error => exact raiseFile target error
  | ok content =>
      cases line with
      | none => exact pure content
      | some number =>
          simp only
          cases Files.lineOf? content number with
          | some text => exact pure text
          | none => exact raise _

/-! ## Calls and signals -/

theorem withinCall {settings : Settings} {action : Action α} {action' : Action β}
    (body : Carries host place action action') :
    Carries host place (withinCall settings frame span action)
      (Evaluation.withinCall settings (host.frame frame) span action') where
  same machine stocked := by
    have depth : (host.machine machine).depth = machine.depth := rfl
    have inside := body.same { machine with depth := machine.depth + 1 } stocked
    have deeper : { host.machine machine with depth := machine.depth + 1 } =
        host.machine { machine with depth := machine.depth + 1 } := rfl
    unfold Evaluation.withinCall
    rw [depth, deeper, inside]
    split
    · rfl
    · cases action { machine with depth := machine.depth + 1 } <;> rfl
  stocked machine stocked := by
    have inside := body.stocked { machine with depth := machine.depth + 1 } stocked
    unfold Evaluation.withinCall
    split
    · exact stocked
    · cases ended : action { machine with depth := machine.depth + 1 } with
      | ok value after =>
          rw [ended] at inside
          exact inside
      | error interrupt after =>
          rw [ended] at inside
          exact inside

theorem contain {action : Action α} {action' : Action β}
    (body : Carries host place action action') :
    Carries host place (contain frame action)
      (Evaluation.contain (host.frame frame) action') where
  same machine stocked := by
    unfold Evaluation.contain
    rw [body.same machine stocked]
    match action machine with
    | .ok _ _ => rfl
    | .error (.signal (.returned _ _)) _ => rfl
    | .error (.signal (.jumped _ _ _)) _ => rfl
    | .error (.signal (.exited _)) _ => rfl
    | .error (.error _) _ => rfl
    | .error (.crashed _) _ => rfl
    | .error .outOfFuel _ => rfl
  stocked machine stocked := by
    rw [finalMachine_contain]
    exact body.stocked machine stocked

theorem catchReturn {action action' : Action Value}
    (body : Carries host host.value action action') :
    Carries host host.value (catchReturn frame action)
      (Evaluation.catchReturn (host.frame frame) action') where
  same machine stocked := by
    unfold Evaluation.catchReturn
    rw [body.same machine stocked]
    match action machine with
    | .ok _ _ => rfl
    | .error (.signal (.returned _ _)) _ => rfl
    | .error (.signal (.jumped _ _ _)) _ => rfl
    | .error (.signal (.exited _)) _ => rfl
    | .error (.error _) _ => rfl
    | .error (.crashed _) _ => rfl
    | .error .outOfFuel _ => rfl
  stocked machine stocked := by
    rw [finalMachine_catchReturn]
    exact body.stocked machine stocked

end Carries

/-- How a pass ended, with the value that it made in its place. -/
def Host.pass (host : Host) : Pass → Pass
  | .completed value => .completed (host.value value)
  | .skipped => .skipped
  | .left => .left

theorem Carries.answering {label : Option String} {action action' : Action Value}
    (body : Carries host host.value action action') :
    Carries host host.pass (answering label action) (Evaluation.answering label action') where
  same machine stocked := by
    unfold Evaluation.answering
    rw [body.same machine stocked]
    match action machine with
    | .ok _ _ => rfl
    | .error (.signal (.returned _ _)) _ => rfl
    | .error (.signal (.jumped jump target place)) after =>
        simp only [Host.ending, Host.interrupt, Host.signal]
        split
        · cases jump <;> rfl
        · rfl
    | .error (.signal (.exited _)) _ => rfl
    | .error (.error _) _ => rfl
    | .error (.crashed _) _ => rfl
    | .error .outOfFuel _ => rfl
  stocked machine stocked := by
    rw [finalMachine_answering]
    exact body.stocked machine stocked

/-! ## Functions of the language -/

/-- A call of a function of the language inside the surroundings. -/
def Host.call (host : Host) (call : BuiltinCall) : BuiltinCall :=
  ⟨call.name, host.frame call.frame, host.site call.site⟩

namespace Carries

variable {call : BuiltinCall}

theorem raiseCall (fault : Fault) :
    Carries host place (call.raise fault) ((host.call call).raise fault) :=
  raise fault

theorem checkCall {operation : Heap → Except Fault α} {operation' : Heap → Except Fault β}
    (agree : ∀ heap, host.Stocked heap →
      operation' (host.heap heap) = (operation heap).map place) :
    Carries host place (call.check operation) ((host.call call).check operation') :=
  check agree

theorem raiseAt (ordinal : Nat) (fault : Fault) :
    Carries host place (call.raiseAt ordinal fault) ((host.call call).raiseAt ordinal fault) := by
  have arguments : (host.call call).site.arguments = call.site.arguments := rfl
  unfold BuiltinCall.raiseAt
  rw [arguments]
  cases call.site.arguments[ordinal - 1]? with
  | some span => exact raise fault
  | none => exact raise fault

theorem mismatch (ordinal : Nat) (expected : String) (value : Value) :
    Carries host place (call.mismatch ordinal expected value)
      ((host.call call).mismatch ordinal expected (host.value value)) :=
  (typeName value).bind fun _ => raiseAt ordinal _

theorem listAt (ordinal : Nat) (value : Value) :
    Carries host host.list (call.listAt ordinal value)
      ((host.call call).listAt ordinal (host.value value)) := by
  cases value with
  | list id => exact pure id
  | _ => exact mismatch ordinal "a list" _

theorem intAt (ordinal : Nat) (value : Value) :
    Carries host id (call.intAt ordinal value)
      ((host.call call).intAt ordinal (host.value value)) := by
  cases value with
  | int n => exact pure n
  | _ => exact mismatch ordinal "an int" _

theorem textAt (ordinal : Nat) (value : Value) :
    Carries host id (call.textAt ordinal value)
      ((host.call call).textAt ordinal (host.value value)) := by
  cases value with
  | text s => exact pure s
  | _ => exact mismatch ordinal "a str" _

theorem numberAt (ordinal : Nat) (value : Value) :
    Carries host id (call.numberAt ordinal value)
      ((host.call call).numberAt ordinal (host.value value)) := by
  unfold BuiltinCall.numberAt
  rw [Surroundings.toFloat?_value]
  cases value.toFloat? with
  | some x => exact pure x
  | none => exact mismatch ordinal "a number" value

theorem runPrint (values : List Value) :
    Carries host host.value (runPrint call values)
      (Evaluation.runPrint (host.call call) (host.values values)) := by
  have shown : Carries host id (Evaluation.readHeap fun heap => values.map heap.display)
      (Evaluation.readHeap fun heap => (host.values values).map heap.display) := by
    refine readHeap fun heap stocked => ?_
    rw [Surroundings.values, List.map_map]
    exact List.map_congr_left fun value _ => Surroundings.display_heap stocked value
  exact shown.bind fun _ => (printText _).bind fun _ => pure Value.nothing

theorem runInput (prompt : Value) :
    Carries host host.value (runInput call prompt)
      (Evaluation.runInput (host.call call) (host.value prompt)) :=
  (display prompt).bind fun _ => (printText _).bind fun _ => readLine.bind fun text =>
    pure (Value.text text)

/-- The elements of a list are replaced alike. -/
theorem changeList (list : Data.ListId) {change change' : List Value → List Value}
    (agree : ∀ items, change' (host.values items) = host.values (change items)) :
    Carries host host.value (changeList list change)
      (Evaluation.changeList (host.list list) change') := by
  have changed : Carries host id
      (Evaluation.changeHeap fun heap => heap.setList list (change (heap.list list)))
      (Evaluation.changeHeap fun heap =>
        heap.setList (host.list list) (change' (heap.list (host.list list)))) := by
    refine changeHeap (fun heap _ => ?_) fun heap stocked => ⟨stocked.1, stocked.2⟩
    rw [Surroundings.list_heap, agree, Surroundings.setList_heap]
  exact changed.bind fun _ => pure Value.nothing

theorem elements (list : Data.ListId) :
    Carries host host.values (Evaluation.readHeap fun heap => heap.list list)
      (Evaluation.readHeap fun heap => heap.list (host.list list)) :=
  readHeap fun _ _ => Surroundings.list_heap list

theorem runAppend (list value : Value) :
    Carries host host.value (runAppend call list value)
      (Evaluation.runAppend (host.call call) (host.value list) (host.value value)) := by
  refine (listAt 1 list).bind fun list => changeList list fun items => ?_
  simp only [Surroundings.values, List.map_append, List.map_cons, List.map_nil]

theorem runPop (list index : Value) :
    Carries host host.value (runPop call list index)
      (Evaluation.runPop (host.call call) (host.value list) (host.value index)) := by
  refine (listAt 1 list).bind fun list => (intAt 2 index).bind fun index => ?_
  refine (elements list).bind fun items => ?_
  have found : ((Data.place? (host.values items).length index.toInt).bind fun place =>
      (host.values items)[place]?.map (place, ·)) =
        ((Data.place? items.length index.toInt).bind fun place =>
          items[place]?.map (place, ·)).map fun found => (found.1, host.value found.2) := by
    rw [Surroundings.values, List.length_map]
    cases Data.place? items.length index.toInt with
    | none => rfl
    | some place =>
        simp only [Option.bind_some, List.getElem?_map, Option.map_map]
        rfl
  simp only [id]
  rw [found]
  cases (Data.place? items.length index.toInt).bind fun place => items[place]?.map (place, ·) with
  | none => exact raiseAt 2 _
  | some found =>
      obtain ⟨place, item⟩ := found
      refine (changeList list fun items => ?_).bind fun _ => pure item
      exact Surroundings.eraseIdx_values items place

theorem runInsert (list index value : Value) :
    Carries host host.value (runInsert call list index value)
      (Evaluation.runInsert (host.call call) (host.value list) (host.value index)
        (host.value value)) := by
  refine (listAt 1 list).bind fun list => (intAt 2 index).bind fun index => ?_
  refine changeList list fun items => ?_
  simp only [Surroundings.values, List.length_map, List.map_insertIdx, id]

theorem runExtend (list other : Value) :
    Carries host host.value (runExtend call list other)
      (Evaluation.runExtend (host.call call) (host.value list) (host.value other)) := by
  refine (listAt 1 list).bind fun list => (listAt 2 other).bind fun other => ?_
  refine (elements other).bind fun more => changeList list fun items => ?_
  simp only [Surroundings.values, List.map_append]

theorem runReverse (list : Value) :
    Carries host host.value (runReverse call list)
      (Evaluation.runReverse (host.call call) (host.value list)) := by
  refine (listAt 1 list).bind fun list => changeList list fun items => ?_
  exact List.map_reverse.symm

/-- Numbers and texts are sorted alike, since they are what they are everywhere. -/
theorem sorted?_values (items : List Value) :
    sorted? (host.values items) = (sorted? items).map host.values := by
  have numbers : (host.values items).all (fun item => item.toFloat?.isSome) =
      items.all fun item => item.toFloat?.isSome := by
    unfold Surroundings.values
    rw [List.all_map]
    refine congrArg (List.all items) (funext fun item => ?_)
    exact congrArg Option.isSome (Surroundings.toFloat?_value item)
  have texts : (host.values items).all isText = items.all isText := by
    unfold Surroundings.values
    rw [List.all_map]
    refine congrArg (List.all items) (funext fun item => ?_)
    cases item <;> rfl
  have byNumber : host.values (items.mergeSort numberBefore) =
      (host.values items).mergeSort numberBefore := by
    refine List.map_mergeSort fun left _ right _ => ?_
    unfold numberBefore
    rw [Surroundings.toFloat?_value, Surroundings.toFloat?_value]
  have byText : host.values (items.mergeSort textBefore) =
      (host.values items).mergeSort textBefore := by
    refine List.map_mergeSort fun left _ right _ => ?_
    cases left <;> cases right <;> rfl
  unfold sorted?
  rw [numbers, texts, ← byNumber, ← byText]
  split
  · rfl
  · split <;> rfl

theorem runSort (list : Value) :
    Carries host host.value (runSort call list)
      (Evaluation.runSort (host.call call) (host.value list)) := by
  refine (listAt 1 list).bind fun list => (elements list).bind fun items => ?_
  rw [sorted?_values]
  cases sorted? items with
  | some items => exact changeList list fun _ => rfl
  | none => exact raiseCall _

theorem runDefined (name : Value) :
    Carries host host.value (runDefined call name)
      (Evaluation.runDefined (host.call call) (host.value name)) := by
  refine (textAt 1 name).bind fun name => ?_
  have found : Carries host (Option.map host.value)
      (Evaluation.readHeap fun heap => heap.lookup? call.frame.scope name)
      (Evaluation.readHeap fun heap => heap.lookup? (host.call call).frame.scope name) :=
    readHeap fun _ stocked => Surroundings.lookup?_heap stocked call.frame.scope name
  refine found.bind fun found => ?_
  cases found with
  | none => exact pure (Value.ofBool false)
  | some value => exact pure (Value.ofBool true)

theorem runExit (code : Value) :
    Carries host host.value (runExit call code)
      (Evaluation.runExit (host.call call) (host.value code)) :=
  (intAt 1 code).bind fun code => throwSignal (.exited (exitCode code))

theorem runReal (compute : Float → Float) (value : Value) :
    Carries host host.value (runReal call compute value)
      (Evaluation.runReal (host.call call) compute (host.value value)) :=
  (numberAt 1 value).bind fun x => pure (Value.float (compute x))

theorem runSqrt (value : Value) :
    Carries host host.value (runSqrt call value)
      (Evaluation.runSqrt (host.call call) (host.value value)) :=
  (numberAt 1 value).bind fun x =>
    ite (fun _ => raiseAt 1 _) fun _ => pure (Value.float x.sqrt)

theorem runRound (round : Float → Float) (value : Value) :
    Carries host host.value (runRound call round value)
      (Evaluation.runRound (host.call call) round (host.value value)) := by
  have rounded : ∀ other : Value, Carries host host.value
      (call.numberAt 1 other >>= fun x => call.check fun heap => heap.toInt (.float (round x)))
      ((host.call call).numberAt 1 (host.value other) >>= fun x =>
        (host.call call).check fun heap => heap.toInt (.float (round x))) :=
    fun other => (numberAt 1 other).bind fun x =>
      checkCall fun _ _ => Surroundings.toInt_heap (.float (round x))
  cases value with
  | int n => exact pure (Value.int n)
  | _ => exact rounded _

theorem runAbs (value : Value) :
    Carries host host.value (runAbs call value)
      (Evaluation.runAbs (host.call call) (host.value value)) := by
  cases value with
  | int n =>
      have fitted : ∀ word : Option Int64,
          Carries host host.value (call.fitted word) ((host.call call).fitted word) := by
        intro word
        cases word with
        | some word => exact pure (Value.int word)
        | none => exact raiseCall _
      exact fitted (Number.fit? n.toInt.natAbs)
  | _ => exact runReal Float.abs _

theorem runOperation (operation : Operation) (given : Data.Arguments) :
    Carries host host.value (runOperation call operation given)
      (Evaluation.runOperation (host.call call) operation (host.arguments given)) := by
  obtain ⟨slots, extras⟩ := given
  have undeclared : Carries host host.value (throw (.crashed .undeclared))
      (throw (.crashed .undeclared)) := crash _
  have printed := @runPrint host call (slots ++ extras)
  rw [Surroundings.values, List.map_append] at printed
  rcases slots with _ | ⟨first, _ | ⟨second, _ | ⟨third, _ | ⟨fourth, rest⟩⟩⟩⟩
  · cases operation <;> first | exact printed | exact undeclared
  · cases operation with
    | print => exact printed
    | input => exact runInput first
    | typeOf => exact (typeName first).bind fun type => pure (Value.text type)
    | toText => exact (display first).bind fun text => pure (Value.text text)
    | toInt => exact checkCall fun _ _ => Surroundings.toInt_heap first
    | toFloat => exact checkCall fun _ _ => Surroundings.toFloat_heap first
    | toList =>
        exact (checkCall fun _ _ => Surroundings.toItems_heap first).bind fun items => newList items
    | length =>
        have counted : Carries host id (call.check fun heap => heap.length first)
            ((host.call call).check fun heap => heap.length (host.value first)) := by
          refine checkCall fun heap _ => ?_
          rw [Surroundings.length_heap]
          cases heap.length first <;> rfl
        exact counted.bind fun count => pure (Value.int (Int64.ofNat count))
    | reverse => exact runReverse first
    | sort => exact runSort first
    | defined => exact runDefined first
    | exit => exact runExit first
    | sqrt => exact runSqrt first
    | floor => exact runRound Float.floor first
    | ceil => exact runRound Float.ceil first
    | sin => exact runReal Float.sin first
    | cos => exact runReal Float.cos first
    | abs => exact runAbs first
    | _ => exact undeclared
  · cases operation with
    | print => exact printed
    | append => exact runAppend first second
    | pop => exact runPop first second
    | extend => exact runExtend first second
    | _ => exact undeclared
  · cases operation with
    | print => exact printed
    | insert => exact runInsert first second third
    | _ => exact undeclared
  · cases operation <;> first | exact printed | exact undeclared

end Carries

end Evaluation
end Scripting
