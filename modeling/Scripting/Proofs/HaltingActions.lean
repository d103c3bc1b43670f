import Scripting.Proofs.BoundArguments
import Scripting.Proofs.FoundedHeaps

namespace Scripting
namespace Evaluation

/-!
Actions that come to an end.

An action that is given fuel halts if it always ends in the same way as soon as the fuel is
enough, with a value, an error or a signal, unless there is no memory for a list that is
repeated.  An action may rely on the heap being founded and leaves it so; the number of active
calls is the same before and after, and classes are at most added.  Values that are at hand stay
good, because they stand only for classes that are there.
-/

open Data (AllBelow Bindings Fault GivenBelow Heap Operation Overgrowth Product Scope Value
  Yields)
open Source (Span)

/-- A machine with a founded heap, a number of active calls, and some classes at least. -/
structure Machine.Sound (depth count : Nat) (machine : Machine) : Prop where
  founded : machine.heap.Founded
  depth : machine.depth = depth
  classes : count ≤ machine.heap.classes.size

/-- A signal that carries no class but one of the first. -/
def Signal.Below (count : Nat) : Signal → Prop
  | .returned value _ => value.Below count
  | .jumped .. | .exited _ => True

variable {α β : Type} {depth count : Nat} {good : Nat → α → Prop} {good' : Nat → β → Prop}

/-- An ending other than for lack of fuel; what is asked of a value depends on the classes. -/
inductive Ended (depth count : Nat) (good : Nat → α → Prop) : Ending α → Prop
  | value {value : α} {machine : Machine} (sound : machine.Sound depth count)
      (holds : good machine.heap.classes.size value) : Ended depth count good (.ok value machine)
  | error {failure : RuntimeError} {machine : Machine} (sound : machine.Sound depth count) :
      Ended depth count good (.error (.error failure) machine)
  | signal {signal : Signal} {machine : Machine} (sound : machine.Sound depth count)
      (holds : signal.Below machine.heap.classes.size) :
      Ended depth count good (.error (.signal signal) machine)
  | overgrown {overgrowth : Overgrowth} {machine : Machine} (sound : machine.Sound depth count)
      (arises : overgrowth.Arises machine.heap) :
      Ended depth count good (.error (.crashed (.overgrown overgrowth)) machine)

/-- With fuel enough the action ends, and more fuel makes no difference. -/
def HaltsAt (machine : Machine) (depth count : Nat) (good : Nat → α → Prop)
    (action : Nat → Action α) : Prop :=
  ∃ ending enough,
    Ended depth count good ending ∧ ∀ fuel, enough ≤ fuel → action fuel machine = ending

/-- The action halts on every sound machine. -/
def Halts (depth count : Nat) (good : Nat → α → Prop) (action : Nat → Action α) : Prop :=
  ∀ machine, machine.Sound depth count → HaltsAt machine depth count good action

/-- Nothing is asked of a value. -/
def noMatter (_ : Nat) (_ : α) : Prop := True

theorem Machine.Sound.self {machine : Machine} (sound : machine.Sound depth count) :
    machine.Sound depth machine.heap.classes.size :=
  ⟨sound.founded, sound.depth, Nat.le_refl _⟩

theorem Machine.Sound.fewer {machine : Machine} {more : Nat} (sound : machine.Sound depth more)
    (fewer : count ≤ more) : machine.Sound depth count :=
  ⟨sound.founded, sound.depth, Nat.le_trans fewer sound.classes⟩

theorem Ended.fewer {ending : Ending α} {more : Nat} (ended : Ended depth more good ending)
    (fewer : count ≤ more) : Ended depth count good ending := by
  cases ended with
  | value sound holds => exact .value (sound.fewer fewer) holds
  | error sound => exact .error (sound.fewer fewer)
  | signal sound holds => exact .signal (sound.fewer fewer) holds
  | overgrown sound arises => exact .overgrown (sound.fewer fewer) arises

namespace HaltsAt

variable {machine : Machine}

/-- An action that ends as another one does, once there is some fuel. -/
theorem congr {action other : Nat → Action α} {begun : Machine}
    (halts : HaltsAt begun depth count good other) (least : Nat)
    (same : ∀ fuel, least ≤ fuel → action fuel machine = other fuel begun) :
    HaltsAt machine depth count good action := by
  obtain ⟨ending, enough, ended, stays⟩ := halts
  refine ⟨ending, max least enough, ended, fun fuel more => ?_⟩
  rw [same fuel (by omega)]
  exact stays fuel (by omega)

/-- An action that passes on one unit of fuel less. -/
theorem later {action other : Nat → Action α} (halts : HaltsAt machine depth count good other)
    (step : ∀ fuel, action (fuel + 1) machine = other fuel machine) :
    HaltsAt machine depth count good action := by
  obtain ⟨ending, enough, ended, stays⟩ := halts
  refine ⟨ending, enough + 1, ended, fun fuel more => ?_⟩
  obtain ⟨less, rfl⟩ : ∃ less, fuel = less + 1 := ⟨fuel - 1, by omega⟩
  rw [step less]
  exact stays less (by omega)

theorem bind {first : Nat → Action α} {next : Nat → α → Action β}
    (begins : HaltsAt machine depth count good first)
    (goes : ∀ more value, count ≤ more → good more value →
      Halts depth more good' fun fuel => next fuel value) :
    HaltsAt machine depth count good' fun fuel => first fuel >>= next fuel := by
  obtain ⟨ending, enough, ended, stays⟩ := begins
  cases ended with
  | @value value between soundBetween holds =>
      obtain ⟨last, later, lastEnded, lastStays⟩ :=
        goes _ value soundBetween.classes holds between soundBetween.self
      refine ⟨last, max enough later, lastEnded.fewer soundBetween.classes, fun fuel more => ?_⟩
      change (first fuel >>= next fuel) machine = last
      rw [bind_apply, stays fuel (by omega)]
      exact lastStays fuel (by omega)
  | @error failure between soundBetween =>
      refine ⟨.error (.error failure) between, enough, .error soundBetween, fun fuel more => ?_⟩
      exact bind_of_error (stays fuel more) (next fuel)
  | @signal signal between soundBetween holds =>
      refine ⟨.error (.signal signal) between, enough, .signal soundBetween holds,
        fun fuel more => ?_⟩
      exact bind_of_error (stays fuel more) (next fuel)
  | @overgrown overgrowth between soundBetween arises =>
      refine ⟨.error (.crashed (.overgrown overgrowth)) between, enough,
        .overgrown soundBetween arises, fun fuel more => ?_⟩
      exact bind_of_error (stays fuel more) (next fuel)

end HaltsAt

namespace Halts

/-- An action that needs no fuel. -/
theorem of_ended {action : Action α}
    (ended : ∀ machine, machine.Sound depth count → Ended depth count good (action machine)) :
    Halts depth count good fun _ => action :=
  fun machine sound => ⟨action machine, 0, ended machine sound, fun _ _ => rfl⟩

theorem pure {value : α} (holds : ∀ more, count ≤ more → good more value) :
    Halts depth count good fun _ => Pure.pure value :=
  of_ended fun _ sound => .value sound (holds _ sound.classes)

theorem bind {first : Nat → Action α} {next : Nat → α → Action β}
    (begins : Halts depth count good first)
    (goes : ∀ more value, count ≤ more → good more value →
      Halts depth more good' fun fuel => next fuel value) :
    Halts depth count good' fun fuel => first fuel >>= next fuel :=
  fun machine sound => (begins machine sound).bind goes

/-- A choice that does not depend on fuel. -/
theorem ite {condition : Prop} [Decidable condition] {yes no : Nat → Action α}
    (positive : condition → Halts depth count good yes)
    (negative : ¬ condition → Halts depth count good no) :
    Halts depth count good fun fuel => if condition then yes fuel else no fuel := by
  by_cases decided : condition
  · simp only [if_pos decided]
    exact positive decided
  · simp only [if_neg decided]
    exact negative decided

variable {frame : Frame} {span : Span}

theorem raise (fault : Fault) :
    Halts depth count good fun _ => raise frame span fault :=
  of_ended fun _ sound => .error sound

theorem throwSignal {signal : Signal} (holds : signal.Below count) :
    Halts depth count good fun _ => (throw (.signal signal) : Action α) := by
  refine of_ended fun machine sound => .signal sound ?_
  cases signal with
  | returned value place => exact Value.Below.mono holds sound.classes
  | jumped jump label place => exact trivial
  | exited code => exact trivial

/-! ## The heap -/

theorem check {operation : Heap → Except Fault α}
    (yields : ∀ heap : Heap, heap.Founded → count ≤ heap.classes.size →
      Yields (good heap.classes.size) (operation heap)) :
    Halts depth count good fun _ => check frame span operation := by
  refine of_ended fun machine sound => ?_
  have result := yields machine.heap sound.founded sound.classes
  unfold Evaluation.check
  cases found : operation machine.heap with
  | ok value =>
      rw [found] at result
      exact .value sound result
  | error fault => exact .error sound

theorem checkAny (operation : Heap → Except Fault α) :
    Halts depth count noMatter fun _ => Evaluation.check frame span operation :=
  check fun _ _ _ => .any _

theorem readHeap {look : Heap → α}
    (holds : ∀ heap : Heap, heap.Founded → count ≤ heap.classes.size →
      good heap.classes.size (look heap)) :
    Halts depth count good fun _ => readHeap look :=
  of_ended fun machine sound => .value sound (holds machine.heap sound.founded sound.classes)

theorem create {make : Heap → α × Heap}
    (kept : ∀ heap : Heap, heap.Founded → count ≤ heap.classes.size →
      (make heap).2.Founded ∧ heap.classes.size ≤ (make heap).2.classes.size ∧
        good (make heap).2.classes.size (make heap).1) :
    Halts depth count good fun _ => create make := by
  refine of_ended fun machine sound => ?_
  obtain ⟨founded, grown, holds⟩ := kept machine.heap sound.founded sound.classes
  change Ended depth count good
    (.ok (make machine.heap).1 { machine with heap := (make machine.heap).2 })
  exact .value ⟨founded, sound.depth, Nat.le_trans sound.classes grown⟩ holds

theorem changeHeap {change : Heap → Heap}
    (kept : ∀ heap : Heap, heap.Founded → count ≤ heap.classes.size →
      (change heap).Founded ∧ (change heap).classes = heap.classes) :
    Halts depth count noMatter fun _ => changeHeap change := by
  refine of_ended fun machine sound => ?_
  obtain ⟨founded, classes⟩ := kept machine.heap sound.founded sound.classes
  refine .value ⟨founded, sound.depth, ?_⟩ trivial
  exact Nat.le_trans sound.classes (Nat.le_of_eq (congrArg Array.size classes.symm))

theorem look (look : Heap → α) :
    Halts depth count noMatter fun _ => Evaluation.readHeap look :=
  readHeap fun _ _ _ => trivial

theorem readList (id : Data.ListId) :
    Halts depth count AllBelow fun _ => Evaluation.readHeap fun heap => heap.list id :=
  readHeap fun _ founded _ => founded.values.list id

theorem typeName (value : Value) :
    Halts depth count noMatter fun _ => typeName value :=
  look _

theorem isTruthy (value : Value) :
    Halts depth count noMatter fun _ => isTruthy value :=
  look _

theorem newList {items : List Value} (below : AllBelow count items) :
    Halts depth count Value.Below fun _ => newList items := by
  have made : Halts depth count noMatter fun _ =>
      Evaluation.create fun heap => heap.newList items :=
    create fun _ founded more =>
      ⟨Heap.founded_newList founded (below.mono more), Nat.le_refl _, trivial⟩
  exact made.bind fun _ _ _ _ => pure fun _ _ => trivial

theorem realize {machine : Machine} (sound : machine.Sound depth count) {product : Product}
    (below : product.Below machine.heap count) :
    HaltsAt machine depth count Value.Below fun _ => realize product := by
  cases product with
  | value value => exact pure (fun _ more => Value.Below.mono below more) machine sound
  | list items => exact newList below machine sound
  | overgrown overgrowth =>
      exact ⟨.error (.crashed (.overgrown overgrowth)) machine, 0, .overgrown sound below,
        fun _ _ => rfl⟩

/-! ## Names -/

theorem bindName (name : String) {value : Value} (below : value.Below count) :
    Halts depth count noMatter fun _ => bindName frame name value :=
  changeHeap fun _ founded more => ⟨Heap.founded_bind founded _ name (below.mono more), rfl⟩

theorem raiseUndefined (name : String) :
    Halts depth count good fun _ => raiseUndefined frame span name :=
  (look _).bind fun _ _ _ _ => raise _

theorem lookUp (name : String) :
    Halts depth count Value.Below fun _ => lookUp frame span name := by
  have look : Halts depth count (fun more found => ∀ value ∈ found, value.Below more) fun _ =>
      Evaluation.readHeap fun heap => heap.lookup? frame.scope name :=
    readHeap fun _ founded _ _ found => founded.values.lookup? found
  refine bind look fun more found _ below => ?_
  cases found with
  | none => exact raiseUndefined name
  | some value => exact pure fun _ grown => (below value rfl).mono grown

theorem openScope {bindings : Bindings Value} (below : bindings.Below count) (enclosing : Scope) :
    Halts depth count noMatter fun _ => openScope bindings enclosing :=
  create fun _ founded more =>
    ⟨Heap.founded_newScope founded (below.mono more) _, Nat.le_refl _, trivial⟩

/-! ## The console and files -/

theorem printText (text : String) :
    Halts depth count noMatter fun _ => printText frame span text := by
  refine of_ended fun machine sound => ?_
  unfold Evaluation.printText
  cases machine.console.write? text with
  | none => exact .error sound
  | some console => exact .value ⟨sound.founded, sound.depth, sound.classes⟩ trivial

theorem readLine : Halts depth count noMatter fun _ => readLine frame span := by
  refine of_ended fun machine sound => ?_
  have after : { machine with console := machine.console.readLine.2 }.Sound depth count :=
    ⟨sound.founded, sound.depth, sound.classes⟩
  simp only [Evaluation.readLine]
  cases machine.console.readLine.1 with
  | ok line => exact .value after trivial
  | error error => exact .error after

theorem raiseFile (target : String) (error : Files.FileError) :
    Halts depth count good fun _ => raiseFile frame span target error := by
  cases error <;> exact raise _

theorem writeFile (settings : Settings) (target text : String) (overwrite : Bool)
    (line : Option Nat) :
    Halts depth count noMatter fun _ =>
      writeFile settings frame span target text overwrite line := by
  refine of_ended fun machine sound => ?_
  unfold Evaluation.writeFile
  cases writtenFiles machine.files (settings.resolve target) text overwrite line with
  | ok files => exact .value ⟨sound.founded, sound.depth, sound.classes⟩ trivial
  | error error =>
      cases error <;> exact .error sound

theorem get : Halts depth count noMatter fun _ => (MonadState.get : Action Machine) :=
  of_ended fun _ sound => .value sound trivial

theorem readFile (settings : Settings) (target : String) (line : Option Nat) :
    Halts depth count noMatter fun _ => readFile settings frame span target line := by
  refine bind get fun more machine _ _ => ?_
  cases machine.files.readText (settings.resolve target) with
  | error error => exact raiseFile target error
  | ok content =>
      cases line with
      | none => exact pure fun _ _ => trivial
      | some number =>
          simp only
          cases Files.lineOf? content number with
          | none => exact raise _
          | some text => exact pure fun _ _ => trivial

theorem keepText (name : Option String) (text : String) :
    Halts depth count Value.Below fun _ => keepText frame name text := by
  cases name with
  | none => exact pure fun _ _ => trivial
  | some name => exact bind (bindName name trivial) fun _ _ _ _ => pure fun _ _ => trivial

/-! ## Calls and signals -/

/-- A call begins only below the limit, and then it is one more. -/
theorem withinCall {settings : Settings} {action : Nat → Action α}
    (body : depth < settings.maxDepth → Halts (depth + 1) count good action) :
    Halts depth count good fun fuel => withinCall settings frame span (action fuel) := by
  intro machine sound
  by_cases full : settings.maxDepth ≤ machine.depth
  · exact ⟨Evaluation.raise frame span .recursionLimit machine, 0, .error sound,
      fun fuel _ => if_pos full⟩
  · have below : depth < settings.maxDepth := sound.depth ▸ Nat.lt_of_not_le full
    have deeper : { machine with depth := machine.depth + 1 }.Sound (depth + 1) count :=
      ⟨sound.founded, congrArg (· + 1) sound.depth, sound.classes⟩
    have back : ∀ {after : Machine}, after.Sound (depth + 1) count →
        { after with depth := after.depth - 1 }.Sound depth count := fun after =>
      ⟨after.founded, by simp only [after.depth, Nat.add_sub_cancel], after.classes⟩
    obtain ⟨ending, enough, ended, stays⟩ := body below _ deeper
    refine ⟨Evaluation.withinCall settings frame span (fun _ => ending) machine, enough, ?_,
      fun fuel more => by simp only [Evaluation.withinCall, stays fuel more]⟩
    unfold Evaluation.withinCall
    rw [if_neg full]
    cases ended with
    | value sound holds => exact .value (back sound) holds
    | error sound => exact .error (back sound)
    | signal sound holds => exact .signal (back sound) holds
    | overgrown sound arises => exact .overgrown (back sound) arises

theorem contain {action : Nat → Action α} (body : Halts depth count good action) :
    Halts depth count good fun fuel => contain frame (action fuel) := by
  intro machine sound
  obtain ⟨ending, enough, ended, stays⟩ := body machine sound
  refine ⟨Evaluation.contain frame (fun _ => ending) machine, enough, ?_, fun fuel more => ?_⟩
  · cases ended with
    | value sound holds => exact .value sound holds
    | error sound => exact .error sound
    | @signal signal after sound holds =>
        cases signal with
        | returned value place => exact .error sound
        | jumped jump label place => exact .error sound
        | exited code => exact .signal sound trivial
    | overgrown sound arises => exact .overgrown sound arises
  · simp only [Evaluation.contain, stays fuel more]

theorem catchReturn {action : Nat → Action Value} (body : Halts depth count Value.Below action) :
    Halts depth count Value.Below fun fuel => catchReturn frame (action fuel) := by
  intro machine sound
  obtain ⟨ending, enough, ended, stays⟩ := body machine sound
  refine ⟨Evaluation.catchReturn frame (fun _ => ending) machine, enough, ?_, fun fuel more => ?_⟩
  · cases ended with
    | value sound holds => exact .value sound holds
    | error sound => exact .error sound
    | @signal signal after sound holds =>
        cases signal with
        | returned value place => exact .value sound holds
        | jumped jump label place => exact .error sound
        | exited code => exact .signal sound trivial
    | overgrown sound arises => exact .overgrown sound arises
  · simp only [Evaluation.catchReturn, stays fuel more]

/-! ## Functions of the language -/

section Builtins

variable {call : BuiltinCall}

theorem raiseAt (ordinal : Nat) (fault : Fault) :
    Halts depth count good fun _ => call.raiseAt ordinal fault := by
  unfold BuiltinCall.raiseAt
  cases call.site.arguments[ordinal - 1]? <;> exact raise _

theorem mismatch (ordinal : Nat) (expected : String) (value : Value) :
    Halts depth count good fun _ => call.mismatch ordinal expected value :=
  (typeName value).bind fun _ _ _ _ => raiseAt ordinal _

theorem listAt (ordinal : Nat) (value : Value) :
    Halts depth count noMatter fun _ => call.listAt ordinal value := by
  cases value with
  | list id => exact pure fun _ _ => trivial
  | _ => exact mismatch ordinal _ _

theorem intAt (ordinal : Nat) (value : Value) :
    Halts depth count noMatter fun _ => call.intAt ordinal value := by
  cases value with
  | int n => exact pure fun _ _ => trivial
  | _ => exact mismatch ordinal _ _

theorem textAt (ordinal : Nat) (value : Value) :
    Halts depth count noMatter fun _ => call.textAt ordinal value := by
  cases value with
  | text s => exact pure fun _ _ => trivial
  | _ => exact mismatch ordinal _ _

theorem numberAt (ordinal : Nat) (value : Value) :
    Halts depth count noMatter fun _ => call.numberAt ordinal value := by
  unfold BuiltinCall.numberAt
  cases value.toFloat? with
  | none => exact mismatch ordinal _ _
  | some x => exact pure fun _ _ => trivial

theorem runPrint (values : List Value) :
    Halts depth count Value.Below fun _ => runPrint call values :=
  (look _).bind fun _ _ _ _ => (printText _).bind fun _ _ _ _ => pure fun _ _ => trivial

theorem runInput (prompt : Value) :
    Halts depth count Value.Below fun _ => runInput call prompt :=
  (look _).bind fun _ _ _ _ => (printText _).bind fun _ _ _ _ =>
    readLine.bind fun _ _ _ _ => pure fun _ _ => trivial

theorem changeList (id : Data.ListId) {change : List Value → List Value}
    (kept : ∀ more items, count ≤ more → AllBelow more items → AllBelow more (change items)) :
    Halts depth count Value.Below fun _ => changeList id change := by
  have changed : Halts depth count noMatter fun _ =>
      Evaluation.changeHeap fun heap => heap.setList id (change (heap.list id)) :=
    changeHeap fun _ founded more =>
      ⟨Heap.founded_setList founded id (kept _ _ more (founded.values.list id)), rfl⟩
  exact changed.bind fun _ _ _ _ => pure fun _ _ => trivial

theorem runAppend (list : Value) {value : Value} (below : value.Below count) :
    Halts depth count Value.Below fun _ => runAppend call list value := by
  refine (listAt 1 list).bind fun _ id grown _ => changeList id fun _ _ more items => ?_
  exact items.append (.cons (below.mono (Nat.le_trans grown more)) .nil)

theorem runPop (list index : Value) :
    Halts depth count Value.Below fun _ => runPop call list index := by
  refine (listAt 1 list).bind fun _ id _ _ => (intAt 2 index).bind fun _ index _ _ => ?_
  refine (readList id).bind fun more items _ below => ?_
  cases found : (Data.place? items.length index.toInt).bind fun place =>
      items[place]?.map (place, ·) with
  | none => exact raiseAt 2 _
  | some pair =>
      obtain ⟨place, item⟩ := pair
      obtain ⟨spot, -, there⟩ := Option.bind_eq_some_iff.mp found
      obtain ⟨_, here, same⟩ := Option.map_eq_some_iff.mp there
      cases same
      refine (changeList id fun _ _ _ items => items.subset (List.eraseIdx_subset ..)).bind
        fun _ _ grown _ => pure fun _ more => ?_
      exact (below item (List.mem_of_getElem? here)).mono (Nat.le_trans grown more)

theorem runInsert (list index : Value) {value : Value} (below : value.Below count) :
    Halts depth count Value.Below fun _ => runInsert call list index value := by
  refine (listAt 1 list).bind fun _ id grown _ => (intAt 2 index).bind fun _ index later _ => ?_
  refine changeList id fun more items last held => ?_
  exact held.insertIdx _ (below.mono (Nat.le_trans grown (Nat.le_trans later last)))

theorem runExtend (list other : Value) :
    Halts depth count Value.Below fun _ => runExtend call list other := by
  refine (listAt 1 list).bind fun _ id _ _ => (listAt 2 other).bind fun _ otherId _ _ => ?_
  refine (readList otherId).bind fun _ items _ below => changeList id fun _ _ more held => ?_
  exact held.append (below.mono more)

theorem runReverse (list : Value) :
    Halts depth count Value.Below fun _ => runReverse call list :=
  (listAt 1 list).bind fun _ id _ _ => changeList id fun _ _ _ held =>
    held.subset fun _ => List.mem_reverse.mp

theorem runSort (list : Value) :
    Halts depth count Value.Below fun _ => runSort call list := by
  refine (listAt 1 list).bind fun _ id _ _ => ?_
  refine (readList id).bind fun _ items _ below => ?_
  have kept : ∀ sorted, sorted? items = some sorted → sorted ⊆ items := by
    intro sorted found
    unfold sorted? at found
    split at found
    · cases found
      exact fun _ => List.mem_mergeSort.mp
    · split at found
      · cases found
        exact fun _ => List.mem_mergeSort.mp
      · cases found
  cases found : sorted? items with
  | none => exact raise _
  | some sorted =>
      exact changeList id fun _ _ more _ => (below.subset (kept sorted found)).mono more

theorem runDefined (name : Value) :
    Halts depth count Value.Below fun _ => runDefined call name := by
  refine (textAt 1 name).bind fun _ name _ _ => ?_
  exact (look _).bind fun _ _ _ _ => pure fun _ _ => trivial

theorem runExit (code : Value) : Halts depth count Value.Below fun _ => runExit call code :=
  (intAt 1 code).bind fun _ _ _ _ => throwSignal trivial

theorem runReal (compute : Float → Float) (value : Value) :
    Halts depth count Value.Below fun _ => runReal call compute value :=
  (numberAt 1 value).bind fun _ _ _ _ => pure fun _ _ => trivial

theorem runSqrt (value : Value) : Halts depth count Value.Below fun _ => runSqrt call value :=
  (numberAt 1 value).bind fun _ _ _ _ =>
    ite (fun _ => raiseAt 1 _) fun _ => pure fun _ _ => trivial

theorem runRound (round : Float → Float) (value : Value) :
    Halts depth count Value.Below fun _ => runRound call round value := by
  have rounded : Halts depth count Value.Below fun _ =>
      (call.numberAt 1 value >>= fun x => call.check fun heap => heap.toInt (.float (round x))) :=
    (numberAt 1 value).bind fun _ _ _ _ => check fun _ _ _ => .toInt _
  cases value with
  | int n => exact pure fun _ _ => trivial
  | _ => exact rounded

theorem fitted (word : Option Int64) : Halts depth count Value.Below fun _ => call.fitted word := by
  cases word with
  | none => exact raise _
  | some word => exact pure fun _ _ => trivial

theorem runAbs (value : Value) : Halts depth count Value.Below fun _ => runAbs call value := by
  have real : Halts depth count Value.Below fun _ => Evaluation.runReal call Float.abs value :=
    runReal _ _
  cases value with
  | int n =>
      unfold Evaluation.runAbs
      exact fitted _
  | _ => exact real

theorem checkInt (value : Value) :
    Halts depth count Value.Below fun _ => call.check fun heap => heap.toInt value :=
  check fun _ _ _ => .toInt value

theorem checkFloat (value : Value) :
    Halts depth count Value.Below fun _ => call.check fun heap => heap.toFloat value :=
  check fun _ _ _ => .toFloat value

theorem checkItems (value : Value) :
    Halts depth count AllBelow fun _ => call.check fun heap => heap.toItems value :=
  check fun _ founded _ => .toItems founded.values value

/-- An operation that finds as many values as it reads, while printing takes any number. -/
theorem runOperation (operation : Operation) {arguments : Data.Arguments}
    (below : arguments.Below count)
    (counted : operation ≠ .print → arguments.slots.length = valuesRead operation) :
    Halts depth count Value.Below fun _ => runOperation call operation arguments := by
  obtain ⟨slots, extras⟩ := arguments
  have held : AllBelow count slots := below.1
  have single : valuesRead operation = 1 → operation ≠ .print → ∃ value, slots = [value] :=
    fun one other => List.length_eq_one_iff.mp ((counted other).trans one)
  cases operation with
  | print => exact runPrint _
  | append =>
      obtain ⟨list, value, rfl⟩ := List.length_eq_two.mp (counted nofun)
      exact runAppend _ (held _ (by simp))
  | pop =>
      obtain ⟨list, index, rfl⟩ := List.length_eq_two.mp (counted nofun)
      exact runPop _ _
  | insert =>
      obtain ⟨list, index, value, rfl⟩ := List.length_eq_three.mp (counted nofun)
      exact runInsert _ _ (held _ (by simp))
  | extend =>
      obtain ⟨list, other, rfl⟩ := List.length_eq_two.mp (counted nofun)
      exact runExtend _ _
  | input =>
      obtain ⟨value, rfl⟩ := single rfl nofun
      exact runInput _
  | typeOf | toText =>
      obtain ⟨value, rfl⟩ := single rfl nofun
      exact (look _).bind fun _ _ _ _ => pure fun _ _ => trivial
  | toInt =>
      obtain ⟨value, rfl⟩ := single rfl nofun
      exact checkInt _
  | toFloat =>
      obtain ⟨value, rfl⟩ := single rfl nofun
      exact checkFloat _
  | toList =>
      obtain ⟨value, rfl⟩ := single rfl nofun
      exact (checkItems _).bind fun _ _ _ held => newList held
  | length =>
      obtain ⟨value, rfl⟩ := single rfl nofun
      exact (checkAny _).bind fun _ _ _ _ => pure fun _ _ => trivial
  | reverse =>
      obtain ⟨value, rfl⟩ := single rfl nofun
      exact runReverse _
  | sort =>
      obtain ⟨value, rfl⟩ := single rfl nofun
      exact runSort _
  | defined =>
      obtain ⟨value, rfl⟩ := single rfl nofun
      exact runDefined _
  | exit =>
      obtain ⟨value, rfl⟩ := single rfl nofun
      exact runExit _
  | sqrt =>
      obtain ⟨value, rfl⟩ := single rfl nofun
      exact runSqrt _
  | floor | ceil =>
      obtain ⟨value, rfl⟩ := single rfl nofun
      exact runRound _ _
  | sin | cos =>
      obtain ⟨value, rfl⟩ := single rfl nofun
      exact runReal _ _
  | abs =>
      obtain ⟨value, rfl⟩ := single rfl nofun
      exact runAbs _

/-- The functions of the language are declared with as many parameters as they read. -/
theorem declared_of_founded {heap : Heap} (founded : heap.Founded) (id : Data.BuiltinId)
    (reads : (heap.builtin id).operation ≠ .print) :
    (heap.builtin id).declared = valuesRead (heap.builtin id).operation := by
  have standard : ∀ builtin ∈ heap.builtins, builtin.operation ≠ .print →
      builtin.declared = valuesRead builtin.operation := fun builtin member _ =>
    (declared_eq_valuesRead builtin (founded.builtins builtin member)).1
  exact Data.forall_getD (fun builtin : Data.Builtin => builtin.operation ≠ .print →
    builtin.declared = valuesRead builtin.operation) standard (fun other => absurd rfl other)
    id.index reads

theorem callBuiltin (settings : Settings) (id : Data.BuiltinId)
    {arguments : List (Option Value)} (below : GivenBelow count arguments) (site : CallSite) :
    Halts depth count Value.Below fun _ => callBuiltin settings id arguments site := by
  have read : Halts depth count
      (fun more builtin => (∀ parameter ∈ builtin.optional, parameter.2.Below more) ∧
        (builtin.operation ≠ .print → builtin.declared = valuesRead builtin.operation)) fun _ =>
      Evaluation.readHeap fun heap => heap.builtin id :=
    readHeap fun _ founded _ => ⟨founded.values.builtin id, declared_of_founded founded id⟩
  refine read.bind fun between builtin grown held => ?_
  obtain ⟨defaults, declared⟩ := held
  have bound : Halts depth between
      (fun more bound => Data.Arguments.Below more bound ∧ bound.slots.length = builtin.declared)
      fun _ => Evaluation.check site.frame site.span fun _ => builtin.bind arguments := by
    refine check fun _ _ more => ?_
    have held := Data.Builtin.yields_bind
      (fun parameter listed => (defaults parameter listed).mono more)
      (below.mono (Nat.le_trans grown more))
    cases binds : builtin.bind arguments with
    | error fault => exact trivial
    | ok bound =>
        rw [binds] at held
        exact ⟨held, Data.Builtin.length_slots_of_bind binds⟩
  refine bound.bind fun _ bound _ held => withinCall fun _ => ?_
  exact runOperation _ held.1 fun reads => held.2.trans (declared reads)

end Builtins

end Halts
end Evaluation
end Scripting
