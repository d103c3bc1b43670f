import Scripting.Evaluation.Perform
import Scripting.Proofs.Elementary
import Scripting.Proofs.OrdinaryFaults
import Scripting.Proofs.StaticScope

namespace Scripting

/-!
Actions that heed what encloses them.

An action heeds an enclosure if it sends only jumps and returns that the enclosure has a
loop or a function for, ends in no error about control, and leaves a machine behind whose
functions are well scoped.  This holds of elementary actions in any enclosure.
-/

open Program (AssignOp BinaryOp Enclosure Node)
open Source (Span)

namespace Data

/-- The defaults of a function lie outside of everything, and its body in a function. -/
def Function.wellScoped (function : Function) : Bool :=
  Program.defaultsWellScoped .outside function.optional && function.body.wellScoped .function

/-- All functions that have been defined are well scoped. -/
def Heap.Scoped (heap : Heap) : Prop :=
  ∀ function ∈ heap.functions, function.wellScoped = true

theorem Heap.Scoped.function {heap : Heap} (clean : heap.Scoped) (id : FunctionId) :
    (heap.function id).wellScoped = true := by
  unfold Heap.function
  by_cases bound : id.index < heap.functions.size
  · rw [Array.getD_eq_getD_getElem?, Array.getElem?_eq_getElem bound]
    exact clean _ (Array.getElem_mem bound)
  · rw [Array.getD_eq_getD_getElem?, Array.getElem?_eq_none (Nat.le_of_not_lt bound)]
    rfl

end Data

namespace Evaluation

open Data (Bindings Fault Heap Jump Ordinary Value)

/-- What may leave a part of a program that is enclosed in the given way. -/
def Admits (around : Enclosure) : Interrupt → Prop
  | .error error => error.fault.isStray = false
  | .signal (.returned ..) => around.inFunction = true
  | .signal (.jumped _ label _) => around.answers label = true
  | .signal (.exited _) => True
  | .crashed _ | .outOfFuel => True

/-- An ending with a value as said or with an interrupt that the enclosure admits. -/
inductive Heeded (around : Enclosure) {α : Type} (good : α → Prop) : Ending α → Prop
  | value {value : α} {machine : Machine} (clean : machine.heap.Scoped) (holds : good value) :
      Heeded around good (.ok value machine)
  | interrupt {interrupt : Interrupt} {machine : Machine} (clean : machine.heap.Scoped)
      (admitted : Admits around interrupt) : Heeded around good (.error interrupt machine)

/-- Any value will do. -/
abbrev anything {α : Type} : α → Prop := fun _ => True

/-- From every machine with well-scoped functions an action ends as its enclosure asks. -/
def Heeds (around : Enclosure) {α : Type} (action : Action α) (good : α → Prop) : Prop :=
  ∀ machine, machine.heap.Scoped → Heeded around good (action machine)

/-- What is admitted outside of everything is admitted everywhere. -/
theorem Admits.anywhere {interrupt : Interrupt} (admitted : Admits .outside interrupt)
    (around : Enclosure) : Admits around interrupt := by
  match interrupt with
  | .error error => exact admitted
  | .signal (.returned _ _) => cases admitted
  | .signal (.jumped _ none _) => cases admitted
  | .signal (.jumped _ (some _) _) => cases admitted
  | .signal (.exited _) => trivial
  | .crashed _ => trivial
  | .outOfFuel => trivial

variable {around : Enclosure} {α β : Type}

theorem Heeded.anywhere {good : α → Prop} {ending : Ending α} (heeded : Heeded .outside good ending) :
    Heeded around good ending := by
  cases heeded with
  | value clean holds => exact .value clean holds
  | interrupt clean admitted => exact .interrupt clean (admitted.anywhere around)

/-- A sequence whose first action ends well goes on well. -/
theorem Heeded.bind {action : Action α} {next : α → Action β} {good : α → Prop}
    {good' : β → Prop} {machine : Machine} (first : Heeded around good (action machine))
    (rest : ∀ value, good value → Heeds around (next value) good') :
    Heeded around good' ((action >>= next) machine) := by
  rw [bind_apply]
  generalize action machine = ending at first
  cases first with
  | value clean holds => exact rest _ holds _ clean
  | interrupt clean admitted => exact .interrupt clean admitted

namespace Heeds

theorem pure {value : α} {good : α → Prop} (holds : good value) :
    Heeds around (Pure.pure value) good :=
  fun _ clean => .value clean holds

theorem bind {action : Action α} {next : α → Action β} {good : α → Prop} {good' : β → Prop}
    (first : Heeds around action good)
    (rest : ∀ value, good value → Heeds around (next value) good') :
    Heeds around (action >>= next) good' :=
  fun machine clean => (first machine clean).bind rest

/-- A sequence in which it does not matter what the first action gives. -/
theorem andThen {action : Action α} {next : α → Action β} {good : β → Prop}
    (first : Heeds around action anything) (rest : ∀ value, Heeds around (next value) good) :
    Heeds around (action >>= next) good :=
  first.bind fun value _ => rest value

theorem ite {condition : Prop} [Decidable condition] {yes no : Action α} {good : α → Prop}
    (positive : Heeds around yes good) (negative : Heeds around no good) :
    Heeds around (if condition then yes else no) good := by
  by_cases decided : condition
  · rw [if_pos decided]
    exact positive
  · rw [if_neg decided]
    exact negative

variable {good : α → Prop} {frame : Frame} {span : Span}

/-! ## Errors -/

theorem raise {fault : Fault} (ordinary : fault.isStray = false) :
    Heeds around (raise frame span fault) good :=
  fun _ clean => .interrupt clean ordinary

theorem crash (crash : Crash) : Heeds around (throw (.crashed crash)) good :=
  fun _ clean => .interrupt clean trivial

theorem outOfFuel : Heeds around (throw .outOfFuel) good :=
  fun _ clean => .interrupt clean trivial

theorem check {operation : Heap → Except Fault α} (ordinary : ∀ heap, Ordinary (operation heap)) :
    Heeds around (check frame span operation) anything := by
  intro machine clean
  unfold Evaluation.check
  cases result : operation machine.heap with
  | ok value => exact .value clean trivial
  | error fault => exact .interrupt clean (ordinary machine.heap fault result)

/-! ## The heap and the console -/

theorem readHeap {look : Heap → α} (holds : ∀ heap : Heap, heap.Scoped → good (look heap)) :
    Heeds around (readHeap look) good :=
  fun machine clean => .value clean (holds machine.heap clean)

/-- Something that is read off the heap, whatever it is. -/
theorem look {look : Heap → α} : Heeds around (Evaluation.readHeap look) anything :=
  readHeap fun _ _ => trivial

/-- Something is created, and it is not a function. -/
theorem create {make : Heap → α × Heap} (kept : ∀ heap, (make heap).2.functions = heap.functions) :
    Heeds around (create make) anything := by
  intro machine clean
  refine .value ?_ trivial
  intro function member
  change function ∈ (make machine.heap).2.functions at member
  rw [kept] at member
  exact clean function member

/-- Something is changed, and it is not a function. -/
theorem changeHeap {change : Heap → Heap} (kept : ∀ heap, (change heap).functions = heap.functions) :
    Heeds around (changeHeap change) anything := by
  intro machine clean
  refine .value ?_ trivial
  intro function member
  change function ∈ (change machine.heap).functions at member
  rw [kept] at member
  exact clean function member

theorem newList (items : List Value) : Heeds around (newList items) anything :=
  (create fun _ => rfl).andThen fun _ => pure trivial

theorem realize (product : Data.Product) : Heeds around (realize product) anything := by
  cases product with
  | value made => exact pure trivial
  | list items => exact newList items
  | overgrown overgrowth => exact crash _

theorem bindName (name : String) (value : Value) : Heeds around (bindName frame name value) anything :=
  changeHeap fun _ => rfl

theorem printText (text : String) : Heeds around (printText frame span text) anything := by
  intro machine clean
  unfold Evaluation.printText
  cases machine.console.write? text with
  | some console => exact .value clean trivial
  | none => exact .interrupt clean rfl

theorem readLine : Heeds around (readLine frame span) anything := by
  intro machine clean
  simp only [Evaluation.readLine]
  cases machine.console.readLine.1 with
  | ok line => exact .value clean trivial
  | error error => exact .interrupt clean rfl

/-- A fault that names the type of a value. -/
theorem raiseTyped {value : Value} {fault : String → Fault}
    (ordinary : ∀ type, (fault type).isStray = false) :
    Heeds around (do Evaluation.raise frame span (fault (← typeName value))) good :=
  look.andThen fun type => raise (ordinary type)

theorem raiseUndefined (name : String) : Heeds around (raiseUndefined frame span name) good :=
  look.andThen fun _ => raise rfl

theorem lookUp (name : String) : Heeds around (lookUp frame span name) anything := by
  refine look.andThen fun found => ?_
  cases found with
  | some value => exact pure trivial
  | none => exact raiseUndefined name

theorem openScope (bindings : Bindings Value) (enclosing : Data.Scope) :
    Heeds around (openScope bindings enclosing) anything :=
  create fun _ => rfl

/-! ## Files -/

theorem raiseFile (target : String) (error : Files.FileError) :
    Heeds around (raiseFile frame span target error) good := by
  cases error <;> exact raise rfl

theorem writeFile (settings : Settings) (target text : String) (overwrite : Bool)
    (line : Option Nat) :
    Heeds around (writeFile settings frame span target text overwrite line) anything := by
  intro machine clean
  unfold Evaluation.writeFile
  cases writtenFiles machine.files (settings.resolve target) text overwrite line with
  | ok files => exact .value clean trivial
  | error error => exact raiseFile target error machine clean

theorem readFile (settings : Settings) (target : String) (line : Option Nat) :
    Heeds around (readFile settings frame span target line) anything := by
  have machine : Heeds around (get : Action Machine) anything := fun _ clean => .value clean trivial
  refine machine.andThen fun machine => ?_
  split
  · exact raiseFile target _
  · exact pure trivial
  · split
    · exact pure trivial
    · exact raise rfl

end Heeds

/-! ## Functions of the language -/

namespace Heeds

variable {call : BuiltinCall} {good : α → Prop}

theorem raiseAt {fault : Fault} (ordinary : fault.isStray = false) (ordinal : Nat) :
    Heeds around (call.raiseAt ordinal fault) good := by
  unfold BuiltinCall.raiseAt
  cases call.site.arguments[ordinal - 1]? with
  | some span => exact raise ordinary
  | none => exact raise ordinary

theorem mismatch (ordinal : Nat) (expected : String) (value : Value) :
    Heeds around (call.mismatch ordinal expected value) good :=
  look.andThen fun _ => raiseAt rfl ordinal

theorem listAt (ordinal : Nat) (value : Value) :
    Heeds around (call.listAt ordinal value) anything := by
  unfold BuiltinCall.listAt
  split
  · exact pure trivial
  · exact mismatch ordinal _ value

theorem intAt (ordinal : Nat) (value : Value) :
    Heeds around (call.intAt ordinal value) anything := by
  unfold BuiltinCall.intAt
  split
  · exact pure trivial
  · exact mismatch ordinal _ value

theorem textAt (ordinal : Nat) (value : Value) :
    Heeds around (call.textAt ordinal value) anything := by
  unfold BuiltinCall.textAt
  split
  · exact pure trivial
  · exact mismatch ordinal _ value

theorem numberAt (ordinal : Nat) (value : Value) :
    Heeds around (call.numberAt ordinal value) anything := by
  unfold BuiltinCall.numberAt
  split
  · exact pure trivial
  · exact mismatch ordinal _ value

theorem changeList (id : Data.ListId) (change : List Value → List Value) :
    Heeds around (changeList id change) anything := by
  refine andThen (changeHeap ?_) fun _ => pure trivial
  intro heap
  rfl

theorem runPop (list index : Value) : Heeds around (runPop call list index) anything := by
  refine (listAt 1 list).andThen fun id => (intAt 2 index).andThen fun index => ?_
  refine look.andThen fun items => ?_
  split
  · exact (changeList id _).andThen fun _ => pure trivial
  · exact raiseAt rfl 2

theorem runSort (list : Value) : Heeds around (runSort call list) anything := by
  refine (listAt 1 list).andThen fun id => look.andThen fun items => ?_
  split
  · exact changeList id _
  · exact raise rfl

theorem runExit (code : Value) : Heeds around (runExit call code) anything :=
  (intAt 1 code).andThen fun _ _ clean => .interrupt clean trivial

theorem runReal (compute : Float → Float) (value : Value) :
    Heeds around (runReal call compute value) anything :=
  (numberAt 1 value).andThen fun _ => pure trivial

theorem runRound (round : Float → Float) (value : Value) :
    Heeds around (runRound call round value) anything := by
  unfold Evaluation.runRound
  split
  · exact pure trivial
  · exact (numberAt 1 value).andThen fun _ => check fun heap => .toInt heap _

theorem fitted (word : Option Int64) : Heeds around (call.fitted word) anything := by
  cases word with
  | some word => exact pure trivial
  | none => exact raise rfl

theorem runAbs (value : Value) : Heeds around (runAbs call value) anything := by
  unfold Evaluation.runAbs
  split
  · exact fitted _
  · exact runReal Float.abs _

/-- Functions of the language know nothing of loops and functions around them. -/
theorem runOperation (operation : Data.Operation) (arguments : Data.Arguments) :
    Heeds around (runOperation call operation arguments) anything := by
  unfold Evaluation.runOperation
  split
  · exact look.andThen fun _ => (printText _).andThen fun _ => pure trivial
  · exact look.andThen fun _ => (printText _).andThen fun _ => readLine.andThen fun _ => pure trivial
  · exact look.andThen fun _ => pure trivial
  · exact look.andThen fun _ => pure trivial
  · exact check fun heap => .toInt heap _
  · exact check fun heap => .toFloat heap _
  · exact (check fun heap => .toItems heap _).andThen fun items => newList items
  · exact (check fun heap => .length heap _).andThen fun _ => pure trivial
  · exact (listAt 1 _).andThen fun id => changeList id _
  · exact runPop _ _
  · exact (listAt 1 _).andThen fun id => (intAt 2 _).andThen fun _ => changeList id _
  · exact (listAt 1 _).andThen fun id => (listAt 2 _).andThen fun _ =>
      look.andThen fun _ => changeList id _
  · exact (listAt 1 _).andThen fun id => changeList id _
  · exact runSort _
  · exact (textAt 1 _).andThen fun _ => look.andThen fun _ => pure trivial
  · exact runExit _
  · exact (numberAt 1 _).andThen fun _ => ite (raiseAt rfl 1) (pure trivial)
  · exact runRound _ _
  · exact runRound _ _
  · exact runReal _ _
  · exact runReal _ _
  · exact runAbs _
  · exact crash _

/-! ## Forms without parts -/

variable {frame : Frame} {span : Span}

theorem evalInspect (name : String) : Heeds around (evalInspect frame span name) anything :=
  (lookUp name).andThen fun _ => look.andThen fun _ => (printText _).andThen fun _ => pure trivial

theorem applyBinary (op : BinaryOp) (left right : Value) :
    Heeds around (applyBinary frame span op left right) anything :=
  (check fun heap => .binary heap op left right).andThen fun product => realize product

theorem combine {current : Action Value} (old : Heeds around current anything) (op : AssignOp)
    (value : Value) : Heeds around (combine frame span op current value) anything := by
  cases op with
  | set => exact pure trivial
  | compound op => exact old.andThen fun old => applyBinary op old value

theorem assignName (name : String) (op : AssignOp) (value : Value) :
    Heeds around (assignName frame span name op value) anything :=
  (combine (lookUp name) op value).andThen fun _ =>
    (bindName name _).andThen fun _ => pure trivial

theorem storedAttribute (id : Data.ObjectId) (name : String) :
    Heeds around (storedAttribute frame span id name) anything := by
  refine look.andThen fun found => ?_
  cases found with
  | some value => exact pure trivial
  | none => exact raiseTyped fun _ => rfl

theorem assignAttribute (owner : Value) (name : String) (op : AssignOp) (value : Value) :
    Heeds around (assignAttribute frame span owner name op value) anything := by
  unfold Evaluation.assignAttribute
  split
  · refine (combine (storedAttribute _ name) op value).andThen fun assigned => ?_
    refine andThen (changeHeap ?_) fun _ => pure trivial
    intro heap
    rfl
  · exact raiseTyped fun _ => rfl

theorem evalDelete (name : String) : Heeds around (evalDelete frame span name) anything := by
  refine look.andThen fun found => ?_
  cases found with
  | some value =>
      refine andThen (changeHeap ?_) fun _ => pure trivial
      intro heap
      rfl
  | none => exact raiseUndefined name

theorem evalJump {label : Option String} (answered : around.answers label = true) (jump : Jump) :
    Heeds around (evalJump frame span jump label) anything :=
  fun _ clean => .interrupt clean answered

/-- A function is put on the heap with its defaults and its body. -/
theorem evalFunction {optional : List (String × Node)} {body : Node}
    (defaults : Program.defaultsWellScoped .outside optional = true)
    (inside : body.wellScoped .function = true) (name : Option String) (required : List String)
    (arrow : Bool) : Heeds around (evalFunction frame name required optional body arrow) anything := by
  refine andThen ?_ fun id => ?_
  · intro machine clean
    refine .value ?_ trivial
    intro function member
    rcases Array.mem_push.mp member with old | rfl
    · exact clean function old
    · exact (Bool.and_eq_true _ _).mpr ⟨defaults, inside⟩
  · cases name with
    | some name => exact (bindName name _).andThen fun _ => pure trivial
    | none => exact pure trivial

theorem bindRequired {site : CallSite} {function : Data.Function} (required : List String)
    (arguments : List (Option Value)) :
    Heeds around (bindRequired site frame function required arguments) anything := by
  induction required generalizing arguments with
  | nil => exact pure trivial
  | cons parameter parameters ih =>
      match arguments with
      | some value :: rest => exact (bindName parameter value).andThen fun _ => ih rest
      | none :: rest => exact raise rfl
      | [] => exact raise rfl

theorem callSequence (sequence : Value) (arguments : List (Option Value)) (site : CallSite) :
    Heeds around (callSequence sequence arguments site) anything := by
  unfold Evaluation.callSequence
  split
  · exact check fun heap => .element heap _ _
  · exact raiseTyped fun _ => rfl

theorem raiseUnreadable (name : String) (document : Source.Document)
    (error : Grammar.SourceError) :
    Heeds around (raiseUnreadable frame span name document error) good :=
  fun _ clean => .interrupt clean rfl

/-- The modules of the language itself define no functions in programs. -/
theorem loadNative (name : String) : Heeds around (loadNative frame span name) anything := by
  intro machine clean
  unfold Evaluation.loadNative
  cases found : machine.heap.newNative? name with
  | none => exact .interrupt clean rfl
  | some native =>
      have kept : native.2.functions = machine.heap.functions := by
        unfold Heap.newNative? at found
        split at found
        · cases found
          exact Heap.functions_installAll _ _ _
        · cases found
      refine .value ?_ trivial
      intro function member
      exact clean function (kept ▸ member)

theorem keepText (name : Option String) (text : String) :
    Heeds around (keepText frame name text) anything := by
  cases name with
  | some name => exact (bindName name _).andThen fun _ => pure trivial
  | none => exact pure trivial

end Heeds

end Evaluation
end Scripting
