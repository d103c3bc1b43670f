import Scripting.Proofs.FollowedForms
import Scripting.Proofs.PlacedForms
import Scripting.Proofs.ScopeTables

namespace Scripting

/-!
Modules do not see who imports them.

A module runs in a scope that contains the prelude and nothing else.  So it does in any
surroundings what it would do if nothing but the prelude were there.  Two states that agree on
the prelude, the settings, the files, the input and the number of active calls may differ in
everything else: in their global names, in what is on the heap, in the frame that the import
stands in and in the switches that directives have set.  The import ends in the same way in both,
and the two results are the same one placed in different surroundings.
-/

namespace Data

/-- A value without identity, or one of the first functions of the language. -/
def Value.isStandard (count : Nat) : Value → Bool
  | .nothing | .int _ | .float _ | .text _ => true
  | .builtin id => id.index < count
  | _ => false

/--
The standard environment of a heap: the table of the prelude, and the functions of the language
that come first.  It refers to nothing else on the heap.
-/
structure Heap.Standard (count : Nat) (heap : Heap) : Prop where
  prelude : 1 ≤ heap.tables.size
  functions : count ≤ heap.builtins.size
  bound : ∀ entry ∈ (heap.table Evaluation.preludeTable).entries, entry.2.isStandard count = true
  defaults : ∀ builtin ∈ heap.builtins.extract 0 count, ∀ parameter ∈ builtin.optional,
    parameter.2.isStandard count = true

/-- Functions that are added come after the first ones. -/
theorem Heap.extract_builtins {heap heap' : Heap} {count : Nat}
    (added : heap.builtins.toList <+: heap'.builtins.toList) (first : count ≤ heap.builtins.size) :
    heap'.builtins.extract 0 count = heap.builtins.extract 0 count := by
  obtain ⟨more, whole⟩ := added
  have enough : count ≤ heap.builtins.toList.length := first
  refine Array.toList_inj.mp ?_
  rw [Array.toList_extract, Array.toList_extract, ← whole]
  simp only [List.extract_eq_take_drop, List.drop_zero, Nat.sub_zero]
  exact List.take_append_of_le_length enough

/-- The table of the prelude alone. -/
theorem Heap.extract_tables {heap heap' : Heap} (size : 1 ≤ heap.tables.size)
    (size' : 1 ≤ heap'.tables.size)
    (same : heap'.table Evaluation.preludeTable = heap.table Evaluation.preludeTable) :
    heap'.tables.extract 0 1 = heap.tables.extract 0 1 := by
  have alone : ∀ heap : Heap, 1 ≤ heap.tables.size →
      heap.tables.extract 0 1 = #[heap.table Evaluation.preludeTable] := by
    intro heap size
    refine Array.ext_getElem? fun index => ?_
    have there : heap.tables[0]? = some (heap.table Evaluation.preludeTable) := by
      unfold Heap.table
      exact (Array.getElem?_eq_getElem size).trans
        (congrArg some (Array.getElem_eq_getD Bindings.empty))
    cases index with
    | zero =>
        rw [Array.getElem?_extract, if_pos (by omega)]
        exact there
    | succ index =>
        rw [Array.getElem?_extract, if_neg (by omega)]
        rfl
  rw [alone heap size, alone heap' size', same]

/-- What is added to a heap leaves its standard environment as it is. -/
theorem Heap.Standard.of_added {heap heap' : Heap} {count : Nat} (standard : heap.Standard count)
    (size : 1 ≤ heap'.tables.size)
    (same : heap'.table Evaluation.preludeTable = heap.table Evaluation.preludeTable)
    (added : heap.builtins.toList <+: heap'.builtins.toList) : heap'.Standard count where
  prelude := size
  functions := Nat.le_trans standard.functions added.length_le
  bound := by
    rw [same]
    exact standard.bound
  defaults := by
    rw [extract_builtins added standard.functions]
    exact standard.defaults

namespace Surroundings

variable (around : Surroundings)

/-- What a placed heap has in common with its surroundings. -/
def common : Heap where
  builtins := around.outside.builtins.extract 0 around.standard
  tables := around.outside.tables.extract 0 1

variable {around}

theorem common_stocked : around.Stocked around.common where
  prelude := by
    have size := around.prelude
    simp only [common, Array.size_extract]
    omega
  functions := by
    have size := around.functions
    simp only [common, Array.size_extract]
    omega

theorem value_standard {value : Value} (standard : value.isStandard around.standard = true) :
    around.value value = value := by
  cases value with
  | builtin id =>
      have first : id.index < around.standard := of_decide_eq_true standard
      simp only [value, builtin, shift, if_pos first]
  | nothing => rfl
  | int n => rfl
  | float x => rfl
  | text s => rfl
  | _ => cases standard

/-- What is common stands at the beginning of the surroundings already. -/
theorem placed_common {α : Type} {kept : Nat} {outside : Array α} {change : α → α}
    (fits : kept ≤ outside.size) (fixed : ∀ thing ∈ outside.extract 0 kept, change thing = thing) :
    placed kept outside change (outside.extract 0 kept) = outside := by
  have size : (outside.extract 0 kept).size = kept := by
    rw [Array.size_extract]
    omega
  refine Array.ext_getElem? fun index => ?_
  rw [getElem?_placed_raw fits (Nat.le_of_eq size.symm)]
  by_cases first : index < kept
  · have there : index < min kept outside.size - 0 := by omega
    have found : (outside.extract 0 kept)[index]? = outside[index]? := by
      rw [Array.getElem?_extract, if_pos there, Nat.zero_add]
    rw [if_pos first, ← found]
    cases same : (outside.extract 0 kept)[index]? with
    | none => rfl
    | some thing => exact congrArg some (fixed thing (Array.mem_of_getElem? same))
  · rw [if_neg first]
    split
    · rfl
    · have beyond : outside.size ≤ index := by omega
      have after : (outside.extract 0 kept).size ≤ index - outside.size + kept := by omega
      rw [Array.getElem?_eq_none after, Array.getElem?_eq_none beyond]
      rfl

theorem bindings_standard {bound : Bindings Value}
    (standard : ∀ entry ∈ bound.entries, entry.2.isStandard around.standard = true) :
    around.bindings bound = bound := by
  refine Bindings.ext_entries ?_
  refine (List.map_congr_left fun entry member => ?_).trans (List.map_id _)
  exact congrArg (Prod.mk entry.1) (value_standard (standard entry member))

theorem placeBuiltin_standard {made : Builtin}
    (standard : ∀ parameter ∈ made.optional, parameter.2.isStandard around.standard = true) :
    around.placeBuiltin made = made := by
  have optional : (made.optional.map fun parameter => (parameter.1, around.value parameter.2)) =
      made.optional := by
    refine (List.map_congr_left fun parameter member => ?_).trans (List.map_id _)
    exact congrArg (Prod.mk parameter.1) (value_standard (standard parameter member))
  unfold placeBuiltin
  rw [optional]

/-- A heap in which nothing has been made yet. -/
theorem heap_common (standard : around.outside.Standard around.standard) :
    around.heap around.common = around.outside := by
  have nothing : ∀ {α : Type} (store : Array α) (change : α → α),
      placed 0 store change #[] = store := by
    intro α store change
    have empty : store.extract 0 0 = #[] := Array.extract_zero
    have same := placed_common (Nat.zero_le store.size) (fun thing member => by
      rw [empty] at member
      exact absurd member (Array.not_mem_empty thing) : ∀ thing ∈ store.extract 0 0, change thing = thing)
    rw [empty] at same
    exact same
  have tables : placed 1 around.outside.tables around.bindings
      (around.outside.tables.extract 0 1) = around.outside.tables := by
    refine placed_common around.prelude fun table member => bindings_standard ?_
    obtain ⟨index, found⟩ := Array.mem_iff_getElem?.mp member
    rw [Array.getElem?_extract] at found
    split at found
    · rename_i first
      have zero : 0 + index = 0 := by omega
      have same : around.outside.table Evaluation.preludeTable = table := by
        unfold Heap.table
        rw [Array.getD_eq_getD_getElem?]
        rw [zero] at found
        exact congrArg (Option.getD · .empty) found
      rw [← same]
      exact standard.bound
    · cases found
  have builtins : placed around.standard around.outside.builtins around.placeBuiltin
      (around.outside.builtins.extract 0 around.standard) = around.outside.builtins :=
    placed_common around.functions fun made member =>
      placeBuiltin_standard (standard.defaults made member)
  unfold heap common
  simp only [nothing, tables, builtins]

end Surroundings

end Data

namespace Evaluation

/-- Functions of the language are at most added. -/
def Grows (before after : Machine) : Prop :=
  before.heap.builtins.toList <+: after.heap.builtins.toList

theorem Composed.grows {pair : Pairing} {own : List Data.TableId} {α : Type}
    {action action' : Action α} (composed : Composed pair own action action')
    (growing : ∀ task machine, Grows machine (finalMachine (pair.self task machine)))
    (machine : Machine) : Grows machine (finalMachine (action machine)) := by
  induction composed generalizing machine with
  | elementary same => exact (same.still machine).builtins
  | signal signal => exact List.prefix_rfl
  | outOfFuel => exact List.prefix_rfl
  | @bind own α β action action' next next' first rest firstGrows restGrows =>
      have before := firstGrows machine
      rw [bind_apply]
      cases ended : action machine with
      | ok value between =>
          rw [ended] at before
          exact before.trans (restGrows value between)
      | error interrupt between =>
          rw [ended] at before
          exact before
  | change owned change => exact List.prefix_rfl
  | @inside own β bindings outer next next' rest restGrows =>
      exact restGrows ⟨⟨machine.heap.tables.size⟩, outer⟩
        { machine with heap := (machine.heap.newScope bindings outer).2 }
  | evaluate node parallel owned => exact growing _ machine
  | call callee arguments parallel => exact growing _ machine
  | withinCall parallel body bodyGrows =>
      rw [finalMachine_withinCall]
      split
      · exact List.prefix_rfl
      · exact bodyGrows { machine with depth := machine.depth + 1 }
  | contain parallel body bodyGrows =>
      rw [finalMachine_contain]
      exact bodyGrows machine
  | catchReturn parallel body bodyGrows =>
      rw [finalMachine_catchReturn]
      exact bodyGrows machine
  | answering label body bodyGrows =>
      rw [finalMachine_answering]
      exact bodyGrows machine

theorem perform_grows (settings : Settings) (fuel : Nat) (task : Task) (machine : Machine) :
    Grows machine (finalMachine (perform settings fuel task machine)) := by
  induction fuel generalizing task machine with
  | zero => exact List.prefix_rfl
  | succ fuel ih =>
      cases task with
      | evaluate node frame => exact (perform_evaluate_composed node (.refl frame)).grows ih machine
      | call callee arguments site =>
          exact (perform_call_composed callee arguments (.refl site)).grows ih machine

end Evaluation

namespace Session

open Data (Bindings Heap Surroundings Value)
open Evaluation
open Program (Node)
open Source (Span)

/-! ## The standard environment of a session -/

/-- How many functions of the language belong to the prelude. -/
def preludeCount : Nat := Data.preludeFunctions.length

theorem startHeap_standard : startHeap.Standard preludeCount where
  prelude := by decide
  functions := by decide
  bound := by decide
  defaults := by decide

/-- The prelude and its functions are those that the session started with. -/
def StandardIntact (machine : Machine) : Prop :=
  PreludeIntact machine ∧ startHeap.builtins.toList <+: machine.heap.builtins.toList

theorem standardIntact_kept : Kept StandardIntact where
  evaluate settings fuel program document machine intact :=
    ⟨preludeIntact_kept.evaluate settings fuel program document machine intact.1,
      intact.2.trans
        (perform_grows settings fuel (.evaluate program (programFrame document)) machine)⟩
  outside _ _ _ intact := intact

/-- Every state of a session has the standard environment that the session started with. -/
theorem standardIntact_leads {settings : Settings} {console : Console} {files : Files.Tree}
    {state : State} (leads : Leads (start settings console files) state) :
    StandardIntact state.machine :=
  standardIntact_kept.machine_leads leads
    ⟨preludeIntact_start settings console files, List.prefix_rfl⟩

theorem StandardIntact.standard {machine : Machine} (intact : StandardIntact machine) :
    machine.heap.Standard preludeCount :=
  startHeap_standard.of_added intact.1.1 intact.1.2 intact.2

/-- What a module is imported by: a session, and a frame in which the import is evaluated. -/
structure Importer where
  state : State
  frame : Frame
  /-- How many functions of the language belong to the prelude. -/
  standard : Nat
  isStandard : state.machine.heap.Standard standard

namespace Importer

variable (importer : Importer)

/-- Evaluate a node. -/
def evaluate (fuel : Nat) (node : Node) : Ending Value :=
  perform importer.state.settings fuel (.evaluate node importer.frame) importer.state.machine

/-- What is there when the import begins. -/
def around : Surroundings :=
  ⟨importer.state.machine.heap, importer.standard, importer.isStandard.prelude,
    importer.isStandard.functions⟩

/-- The machine as it would be if there were nothing but the prelude. -/
def bare : Machine :=
  { importer.state.machine with
    heap := importer.around.common
    console := { importer.state.machine.console with output := "" } }

/-- What surrounds a module that is entered by a trail. -/
def host (trail : Trail) : Host :=
  { importer.around with output := importer.state.machine.console.output, trail := trail }

theorem machine_bare (trail : Trail) :
    (importer.host trail).machine importer.bare = importer.state.machine := by
  have heap : (importer.host trail).heap importer.bare.heap = importer.state.machine.heap :=
    Surroundings.heap_common importer.isStandard
  have output : importer.state.machine.console.output ++ "" =
      importer.state.machine.console.output := String.append_empty
  unfold Host.machine
  rw [heap]
  simp only [bare, host, output]

end Importer

/-- Any state of a session, with any frame. -/
def Importer.ofSession {settings : Settings} {console : Console} {files : Files.Tree}
    {state : State} (leads : Leads (start settings console files) state) (frame : Frame) :
    Importer :=
  ⟨state, frame, preludeCount, (standardIntact_leads leads).standard⟩

/-- Importers that agree in all that a module may depend on. -/
structure Importer.Agrees (one two : Importer) : Prop where
  settings : two.state.settings = one.state.settings
  standard : two.standard = one.standard
  prelude : two.state.machine.heap.tables.extract 0 1 = one.state.machine.heap.tables.extract 0 1
  functions : two.state.machine.heap.builtins.extract 0 one.standard =
    one.state.machine.heap.builtins.extract 0 one.standard
  files : two.state.machine.files = one.state.machine.files
  input : two.state.machine.console.input = one.state.machine.console.input
  writesLeft : two.state.machine.console.writesLeft = one.state.machine.console.writesLeft
  depth : two.state.machine.depth = one.state.machine.depth

/-- Two sessions have the same standard environment whatever has happened in them. -/
theorem Importer.Agrees.ofSession {settings settings' : Settings} {console console' : Console}
    {files files' : Files.Tree} {state state' : State} (frame frame' : Frame)
    (leads : Leads (start settings console files) state)
    (leads' : Leads (start settings' console' files') state')
    (sameSettings : state'.settings = state.settings)
    (sameFiles : state'.machine.files = state.machine.files)
    (input : state'.machine.console.input = state.machine.console.input)
    (writesLeft : state'.machine.console.writesLeft = state.machine.console.writesLeft)
    (depth : state'.machine.depth = state.machine.depth) :
    (Importer.ofSession leads frame).Agrees (.ofSession leads' frame') where
  settings := sameSettings
  standard := rfl
  prelude := by
    have intact := (standardIntact_leads leads).1
    have intact' := (standardIntact_leads leads').1
    exact Heap.extract_tables intact.1 intact'.1 (intact'.2.trans intact.2.symm)
  functions := by
    have same := Heap.extract_builtins (standardIntact_leads leads).2 startHeap_standard.functions
    have same' := Heap.extract_builtins (standardIntact_leads leads').2 startHeap_standard.functions
    exact same'.trans same.symm
  files := sameFiles
  input := input
  writesLeft := writesLeft
  depth := depth

theorem Importer.Agrees.bare {one two : Importer} (agrees : one.Agrees two) :
    two.bare = one.bare := by
  have heap : two.around.common = one.around.common := by
    simp only [Surroundings.common, Importer.around, agrees.standard, agrees.prelude,
      agrees.functions]
  simp only [Importer.bare, heap, agrees.files, agrees.input, agrees.writesLeft, agrees.depth]

/-- The same has been printed, read and written, and as many calls are active. -/
structure SameEffects (one two : Importer) (machine machine' : Machine) : Prop where
  printed : ∃ text,
    machine.console.output = one.state.machine.console.output ++ text ∧
      machine'.console.output = two.state.machine.console.output ++ text
  writesLeft : machine'.console.writesLeft = machine.console.writesLeft
  input : machine'.console.input = machine.console.input
  files : machine'.files = machine.files
  depth : machine'.depth = machine.depth

/--
Two endings of the same import: with results that correspond, or with errors of the same kind,
details and span, or with the same exit, or the same crash.  Errors are also in the same place,
except that an error of the import itself is placed where it stands in either frame.
-/
inductive SameEnding (one two : Importer) (span : Span) {α : Type}
    (made : α → Machine → α → Machine → Prop) : Ending α → Ending α → Prop
  | value {value value' : α} {machine machine' : Machine} (same : made value machine value' machine')
      (effects : SameEffects one two machine machine') :
      SameEnding one two span made (.ok value machine) (.ok value' machine')
  | error {error error' : RuntimeError} {machine machine' : Machine}
      (fault : error'.fault = error.fault) (extent : error'.place.span = error.place.span)
      (place : error'.place = error.place ∨
        (error.place = one.frame.place span ∧ error'.place = two.frame.place span))
      (effects : SameEffects one two machine machine') :
      SameEnding one two span made (.error (.error error) machine) (.error (.error error') machine')
  | exit (code : Int32) {machine machine' : Machine}
      (effects : SameEffects one two machine machine') :
      SameEnding one two span made (.error (.signal (.exited code)) machine)
        (.error (.signal (.exited code)) machine')
  | crashed {crash : Crash} {machine machine' : Machine}
      (effects : SameEffects one two machine machine') :
      SameEnding one two span made (.error (.crashed crash) machine)
        (.error (.crashed crash) machine')
  | outOfFuel {machine machine' : Machine} (effects : SameEffects one two machine machine') :
      SameEnding one two span made (.error .outOfFuel machine) (.error .outOfFuel machine')

/-- Two heaps are the same one in different surroundings, and the bindings are the same ones. -/
def SameExports (one two : Importer) (exported : Bindings Value) (machine : Machine)
    (exported' : Bindings Value) (machine' : Machine) : Prop :=
  ∃ (inner : Heap) (exports : Bindings Value),
    exported = one.around.bindings exports ∧ exported' = two.around.bindings exports ∧
      machine.heap = one.around.heap inner ∧ machine'.heap = two.around.heap inner

/--
What an import leaves behind: the value is a new library with the exports of the module, and the
importer has bound it.  All that the module has made is placed in the surroundings.
-/
structure Importer.Received (importer : Importer) (name bound : String) (inner : Heap)
    (exports : Bindings Value) (library : Value) (machine : Machine) : Prop where
  isNew : library = .library ⟨(importer.around.heap inner).libraries.size⟩
  holds : machine.heap.library ⟨(importer.around.heap inner).libraries.size⟩ =
    ⟨name, importer.around.bindings exports⟩
  names : (importer.around.bindings exports).names = exports.names
  heap : machine.heap =
    ((importer.around.heap inner).newLibrary ⟨name, importer.around.bindings exports⟩).2.bind
      importer.frame.scope.inner bound library

/--
The imported modules export the same names in the same order, and the values are the same ones
in different surroundings.  So is everything that the modules have made.
-/
def SameLibrary (one two : Importer) (name bound : String) (library : Value) (machine : Machine)
    (library' : Value) (machine' : Machine) : Prop :=
  ∃ (inner : Heap) (exports : Bindings Value),
    one.Received name bound inner exports library machine ∧
      two.Received name bound inner exports library' machine'

variable {one two : Importer} {span : Span}

/-! ## One run in two places -/

theorem SameEffects.of_home {home : Machine} (trail trail' : Trail) :
    SameEffects one two ((one.host trail).machine home) ((two.host trail').machine home) where
  printed := ⟨home.console.output, rfl, rfl⟩
  writesLeft := rfl
  input := rfl
  files := rfl
  depth := rfl

/-- Nothing has been done yet. -/
theorem Importer.Agrees.effects (agrees : one.Agrees two) :
    SameEffects one two one.state.machine two.state.machine where
  printed := ⟨"", String.append_empty.symm, String.append_empty.symm⟩
  writesLeft := agrees.writesLeft
  input := agrees.input
  files := agrees.files
  depth := agrees.depth

theorem SameEnding.of_home {ending : Ending (Bindings Value)} (trail trail' : Trail)
    (silent : ∀ signal after, ending = .error (.signal signal) after → signal.isLocal = false) :
    SameEnding one two span (SameExports one two)
      ((one.host trail).ending one.around.bindings ending)
      ((two.host trail').ending two.around.bindings ending) := by
  match ending, silent with
  | .ok exports home, _ =>
      exact .value ⟨home.heap, exports, rfl, rfl, rfl, rfl⟩ (.of_home trail trail')
  | .error (.error _) home, _ => exact .error rfl rfl (.inl rfl) (.of_home trail trail')
  | .error (.signal (.exited code)) home, _ => exact .exit code (.of_home trail trail')
  | .error (.signal (.returned _ _)) home, silent => cases silent _ _ rfl
  | .error (.signal (.jumped _ _ _)) home, silent => cases silent _ _ rfl
  | .error (.crashed _) home, _ => exact .crashed (.of_home trail trail')
  | .error .outOfFuel home, _ => exact .outOfFuel (.of_home trail trail')

/-- An error of the import itself. -/
theorem SameEnding.raise {α : Type} {made : α → Machine → α → Machine → Prop}
    (agrees : one.Agrees two) (fault : Data.Fault) :
    SameEnding one two span made (raise one.frame span fault one.state.machine)
      (Evaluation.raise two.frame span fault two.state.machine) :=
  .error rfl rfl (.inr ⟨rfl, rfl⟩) agrees.effects

/-- The signals of a module do not leave it. -/
theorem moduleIn_silent {self : Evaluator} {trail : Trail} {document : Source.Document}
    {program : Node} {machine after : Machine} {signal : Signal}
    (ended : moduleIn self trail document program machine = .error (.signal signal) after) :
    signal.isLocal = false := by
  unfold moduleIn at ended
  rcases bind_eq_error_iff.mp ended with made | ⟨scope, entered, -, ended⟩
  · cases made
  rcases bind_eq_error_iff.mp ended with made | ⟨exports, opened, -, ended⟩
  · cases made
  rcases bind_eq_error_iff.mp ended with ran | ⟨value, between, -, read⟩
  · unfold contain at ran
    split at ran
    · cases ran
    · rename_i sent _ _
      cases sent with
      | exited code =>
          cases ran
          rfl
      | returned value place => cases ran
      | jumped jump label place => cases ran
    · rename_i unsent _
      cases ran
      exact absurd rfl (unsent signal)
  · cases read

/-- A module does the same for both importers. -/
theorem moduleIn_same (agrees : one.Agrees two) (settings : Settings) (fuel depth : Nat)
    (trail trail' : Trail) (document : Source.Document) (program : Node) :
    SameEnding one two span (SameExports one two)
      (moduleIn (perform settings fuel) trail document program
        { one.state.machine with depth := depth })
      (moduleIn (perform settings fuel) trail' document program
        { two.state.machine with depth := depth }) := by
  have placed : ∀ (importer : Importer) (trail : Trail),
      moduleIn (perform settings fuel) trail document program
          { importer.state.machine with depth := depth } =
        (importer.host trail).ending importer.around.bindings
          (moduleIn (perform settings fuel) (.root "") document program
            { importer.bare with depth := depth }) := by
    intro importer trail
    have there : (importer.host trail).machine { importer.bare with depth := depth } =
        { importer.state.machine with depth := depth } :=
      congrArg (fun machine : Machine => { machine with depth := depth })
        (importer.machine_bare trail)
    have carried := Carries.moduleIn (perform_carried (importer.host trail) settings fuel)
      (.root "") document program
    rw [← there]
    exact carried.same { importer.bare with depth := depth } Surroundings.common_stocked
  rw [placed one trail, placed two trail', agrees.bare]
  exact .of_home trail trail' fun _ _ ended => moduleIn_silent ended

/-! ## The parts of an import -/

theorem SameEnding.withinCall (agrees : one.Agrees two) {settings : Settings}
    {action action' : Action (Bindings Value)}
    (body : SameEnding one two span (SameExports one two)
      (action { one.state.machine with depth := one.state.machine.depth + 1 })
      (action' { two.state.machine with depth := one.state.machine.depth + 1 })) :
    SameEnding one two span (SameExports one two)
      (withinCall settings one.frame span action one.state.machine)
      (Evaluation.withinCall settings two.frame span action' two.state.machine) := by
  have returned : ∀ {machine machine' : Machine}, SameEffects one two machine machine' →
      SameEffects one two { machine with depth := machine.depth - 1 }
        { machine' with depth := machine'.depth - 1 } := fun effects =>
    ⟨effects.printed, effects.writesLeft, effects.input, effects.files,
      congrArg (· - 1) effects.depth⟩
  unfold Evaluation.withinCall
  rw [agrees.depth]
  by_cases full : settings.maxDepth ≤ one.state.machine.depth
  · rw [if_pos full, if_pos full]
    exact .raise agrees .recursionLimit
  · rw [if_neg full, if_neg full]
    generalize action { one.state.machine with depth := one.state.machine.depth + 1 } = ending
      at body
    generalize action' { two.state.machine with depth := one.state.machine.depth + 1 } = ending'
      at body
    cases body with
    | value same effects => exact .value same (returned effects)
    | error fault extent place effects => exact .error fault extent place (returned effects)
    | exit code effects => exact .exit code (returned effects)
    | crashed effects => exact .crashed (returned effects)
    | outOfFuel effects => exact .outOfFuel (returned effects)

theorem loadModule_same (agrees : one.Agrees two) (settings : Settings) (fuel : Nat)
    (name path : String) :
    SameEnding one two span (SameExports one two)
      (loadModule (perform settings fuel) settings one.frame span name path one.state.machine)
      (loadModule (perform settings fuel) settings two.frame span name path two.state.machine) := by
  rw [Follows.loadModule_apply, Follows.loadModule_apply, agrees.files]
  cases one.state.machine.files.readText path with
  | error error => exact .raise agrees _
  | ok text =>
      simp only
      cases (Grammar.readProgram {} text).1 with
      | error error => exact .error rfl rfl (.inl rfl) agrees.effects
      | ok program =>
          simp only [runModule, moduleBody_eq]
          exact .withinCall agrees (moduleIn_same agrees settings fuel _ _ _ _ program)

theorem loadNative_same (agrees : one.Agrees two) (name : String) :
    SameEnding one two span (SameExports one two)
      (loadNative one.frame span name one.state.machine)
      (loadNative two.frame span name two.state.machine) := by
  have placed : ∀ importer : Importer, importer.state.machine.heap.newNative? name =
      (importer.bare.heap.newNative? name).map fun made =>
        (importer.around.bindings made.1, importer.around.heap made.2) := by
    intro importer
    have made := Surroundings.newNative?_heap
      (Surroundings.common_stocked : importer.around.Stocked importer.around.common) name
    rw [Surroundings.heap_common importer.isStandard] at made
    exact made
  unfold loadNative
  rw [placed one, placed two, agrees.bare]
  cases one.bare.heap.newNative? name with
  | none => exact .raise agrees _
  | some made =>
      exact .value ⟨made.2, made.1, rfl, rfl, rfl, rfl⟩
        ⟨agrees.effects.printed, agrees.writesLeft, agrees.input, agrees.files, agrees.depth⟩

/-- Make a library of what a module exports and bind it. -/
def Importer.receive (importer : Importer) (name bound : String) (exports : Bindings Value) :
    Action Value := do
  let id ← create fun heap => heap.newLibrary ⟨name, exports⟩
  bindName importer.frame bound (.library id)
  return .library id

theorem Importer.received (importer : Importer) (name bound : String) {inner : Heap}
    (exports : Bindings Value) {machine : Machine}
    (heap : machine.heap = importer.around.heap inner) :
    ∃ library after,
      importer.receive name bound (importer.around.bindings exports) machine =
          .ok library { machine with heap := after } ∧
        importer.Received name bound inner exports library { machine with heap := after } := by
  have size : (⟨(importer.around.heap inner).libraries.size⟩ : Data.ModuleId) =
      (machine.heap.newLibrary ⟨name, importer.around.bindings exports⟩).1 := by
    rw [heap]
    rfl
  refine ⟨_, _, rfl, ?_, ?_, Bindings.names_map _ _, ?_⟩
  · rw [size]
    rfl
  · rw [size]
    change (machine.heap.libraries.push _).getD machine.heap.libraries.size default = _
    rw [Array.getD_eq_getD_getElem?, Array.getElem?_push_size]
    rfl
  · rw [← heap]
    rfl

theorem SameEnding.receive {action action' : Action (Bindings Value)}
    (loaded : SameEnding one two span (SameExports one two) (action one.state.machine)
      (action' two.state.machine)) (name bound : String) :
    SameEnding one two span (SameLibrary one two name bound)
      ((action >>= one.receive name bound) one.state.machine)
      ((action' >>= two.receive name bound) two.state.machine) := by
  rw [bind_apply, bind_apply]
  generalize action one.state.machine = ending at loaded
  generalize action' two.state.machine = ending' at loaded
  cases loaded with
  | value same effects =>
      obtain ⟨inner, exports, rfl, rfl, heap, heap'⟩ := same
      obtain ⟨library, after, made, received⟩ := one.received name bound exports heap
      obtain ⟨library', after', made', received'⟩ := two.received name bound exports heap'
      change SameEnding _ _ _ _ (one.receive _ _ _ _) (two.receive _ _ _ _)
      rw [made, made']
      exact .value ⟨inner, exports, received, received'⟩
        ⟨effects.printed, effects.writesLeft, effects.input, effects.files, effects.depth⟩
  | error fault extent place effects => exact .error fault extent place effects
  | exit code effects => exact .exit code effects
  | crashed effects => exact .crashed effects
  | outOfFuel effects => exact .outOfFuel effects

/--
A module does not see who imports it.  Two importers that agree on the prelude, the settings,
the files, the input, the output that can still be written and the number of active calls import
the same thing: the exports have the same names in the same order, and their values are the same
ones in different surroundings; the same is printed, read and written.  Or both fail with the
same error, down to the names that it suggests.
-/
theorem import_blind_to_importer (one two : Importer) (agrees : one.Agrees two) (fuel : Nat)
    (span : Span) (name : String) (rename : Option String) :
    SameEnding one two span (SameLibrary one two name (rename.getD name))
      (one.evaluate fuel ⟨span, .importModule name rename⟩)
      (two.evaluate fuel ⟨span, .importModule name rename⟩) := by
  cases fuel with
  | zero => exact .outOfFuel agrees.effects
  | succ fuel =>
      have imported : ∀ importer : Importer,
          importer.evaluate (fuel + 1) ⟨span, .importModule name rename⟩ =
            (((moduleFiles importer.state.settings name).find?
                importer.state.machine.files.isFile).elim (loadNative importer.frame span name)
                (loadModule (perform importer.state.settings fuel) importer.state.settings
                  importer.frame span name) >>=
              importer.receive name (rename.getD name)) importer.state.machine := by
        intro importer
        change evalImport _ _ _ _ _ _ _ = _
        unfold evalImport
        rw [bind_apply]
        simp only [findModule?]
        cases (moduleFiles importer.state.settings name).find?
          importer.state.machine.files.isFile <;> rfl
      rw [imported one, imported two, agrees.settings, agrees.files]
      cases (moduleFiles one.state.settings name).find? one.state.machine.files.isFile with
      | some path => exact (loadModule_same agrees _ fuel name path).receive name _
      | none => exact (loadNative_same agrees name).receive name _

/-! ## A module that asks for a name of its importer -/

namespace Prying

def whole : Span := ⟨.start, .start⟩

def document : Source.Document := ⟨"main.ql", "import prying"⟩

def files : Files.Tree where
  files := [(⟨["prying.ql"]⟩, "export secret as seen".toUTF8)]

/-- A session in which the name is bound. -/
def state : State :=
  ((start {} {} files).evaluate 3 document
    ⟨whole, .assign [⟨none, "secret", whole⟩] .set [⟨whole, .number (.int 1)⟩]⟩).2

/-- A new session, which imports the module from its program. -/
def stranger : Importer :=
  .ofSession (.start : Leads (start {} {} files) _) (programFrame document)

/-- The session in which the name is bound imports the module from a function. -/
def keeper : Importer :=
  .ofSession (.evaluate .start 3 document _ : Leads (start {} {} files) state)
    { programFrame document with trail := .entered "f" (.root programName) document .start }

end Prying

/-- The fault that an evaluation ends in. -/
def Prying.fault? : Ending Value → Option Data.Fault
  | .error (.error failure) _ => some failure.fault
  | _ => none

/-- It does not see the name, whether it is there or not, and is not even told that it is there. -/
theorem prying_unanswered :
    (Prying.keeper.state.machine.heap.table globalTable).get? "secret" = some (.int 1) ∧
      Prying.fault? (Prying.keeper.evaluate 9 ⟨Prying.whole, .importModule "prying" none⟩) =
        some (.notDefined "secret" (some "sort")) ∧
      SameEnding Prying.stranger Prying.keeper Prying.whole
        (SameLibrary Prying.stranger Prying.keeper "prying" "prying")
        (Prying.stranger.evaluate 9 ⟨Prying.whole, .importModule "prying" none⟩)
        (Prying.keeper.evaluate 9 ⟨Prying.whole, .importModule "prying" none⟩) := by
  refine ⟨rfl, by decide +kernel, ?_⟩
  refine import_blind_to_importer Prying.stranger Prying.keeper ?_ 9 Prying.whole "prying" none
  exact .ofSession _ _ .start (.evaluate .start 3 _ _) rfl rfl rfl rfl rfl

end Session
end Scripting
