import Scripting.Proofs.BoundArguments
import Scripting.Proofs.ModuleIsolation
import Scripting.Proofs.SortedLists

namespace Scripting
namespace Evaluation

/-!
What the functions of the language find in their slots.

A function of the language reads its arguments by their places and does not look
whether there is anything at a place.  That this is safe hangs on two things that are
written down far apart: on the parameters that a function is declared with, and on the
binding of arguments, which fills one slot for each of them however many arguments
there are and wherever placeholders stand among them.

Reading by places is an evaluation of its own beside `runOperation`, in which a place
without a slot is noticed; over the whole table of functions the two are the same.
-/

open Data (Arguments Bindings Builtin BuiltinId Fault Heap Operation Slot Value mathFunctions
  preludeFunctions)

/-! ## Reading by places -/

/-- The value at a place, if there is a slot with a value. -/
def valueAt? (slots : List Slot) (place : Nat) : Option Value :=
  match slots[place]? with
  | some (.value value) => some value
  | _ => none

/-- The arguments that are left over, if they are found at a place. -/
def restAt? (slots : List Slot) (place : Nat) : Option (List Value) :=
  match slots[place]? with
  | some (.rest values) => some values
  | _ => none

/-- Run an operation that reads its slots by their places; nothing if one is not there. -/
def runAtPlaces (call : BuiltinCall) (operation : Operation) (slots : List Slot) :
    Option (Action Value) := do
  match operation with
  | .print => return runPrint call ((← valueAt? slots 0) :: (← restAt? slots 1))
  | .input => return runInput call (← valueAt? slots 0)
  | .typeOf => (valueAt? slots 0).map fun value => return .text (← typeName value)
  | .toText =>
      (valueAt? slots 0).map fun value => do
        return .text (← readHeap fun heap => heap.display value)
  | .toInt => (valueAt? slots 0).map fun value => call.check fun heap => heap.toInt value
  | .toFloat => (valueAt? slots 0).map fun value => call.check fun heap => heap.toFloat value
  | .toList =>
      (valueAt? slots 0).map fun value => do
        newList (← call.check fun heap => heap.toItems value)
  | .length =>
      (valueAt? slots 0).map fun value => do
        let count ← call.check fun heap => heap.length value
        return .int (Int64.ofNat count)
  | .append => return runAppend call (← valueAt? slots 0) (← valueAt? slots 1)
  | .pop => return runPop call (← valueAt? slots 0) (← valueAt? slots 1)
  | .insert =>
      return runInsert call (← valueAt? slots 0) (← valueAt? slots 1) (← valueAt? slots 2)
  | .extend => return runExtend call (← valueAt? slots 0) (← valueAt? slots 1)
  | .reverse => return runReverse call (← valueAt? slots 0)
  | .sort => return runSort call (← valueAt? slots 0)
  | .defined => return runDefined call (← valueAt? slots 0)
  | .exit => return runExit call (← valueAt? slots 0)
  | .sqrt => return runSqrt call (← valueAt? slots 0)
  | .floor => return runRound call Float.floor (← valueAt? slots 0)
  | .ceil => return runRound call Float.ceil (← valueAt? slots 0)
  | .sin => return runReal call Float.sin (← valueAt? slots 0)
  | .cos => return runReal call Float.cos (← valueAt? slots 0)
  | .abs => return runAbs call (← valueAt? slots 0)

/-- With as many values as it reads an operation finds a slot at each place. -/
theorem runAtPlaces_eq_some (call : BuiltinCall) {operation : Operation} {values : List Value}
    (extras : List Value) (counted : values.length = valuesRead operation) :
    runAtPlaces call operation
        (values.map .value ++ if operation = .print then [.rest extras] else []) =
      some (runOperation call operation ⟨values, extras⟩) := by
  cases operation with
  | insert =>
      obtain ⟨list, index, value, rfl⟩ := List.length_eq_three.mp counted
      rfl
  | append | pop | extend =>
      obtain ⟨list, other, rfl⟩ := List.length_eq_two.mp counted
      rfl
  | _ =>
      obtain ⟨value, rfl⟩ := List.length_eq_one_iff.mp counted
      rfl

/-! ## The functions that there are -/

/-- A function of the standard environment or of the mathematical module. -/
def IsStandard (heap : Heap) (id : BuiltinId) : Prop :=
  heap.builtin id ∈ preludeFunctions ++ mathFunctions

theorem builtin_of_added {heap after : Heap} {id : BuiltinId}
    (added : heap.builtins.toList <+: after.builtins.toList)
    (there : id.index < heap.builtins.size) : after.builtin id = heap.builtin id := by
  have same := List.prefix_iff_getElem?.mp added id.index there
  rw [Array.getElem?_toList] at same
  rw [Heap.builtin, Heap.builtin, Array.getD_eq_getD_getElem?, Array.getD_eq_getD_getElem?, same,
    Array.getElem?_eq_getElem there]
  rfl

theorem builtin_newBuiltin (heap : Heap) (builtin : Builtin) :
    (heap.newBuiltin builtin).2.builtin (heap.newBuiltin builtin).1 = builtin := by
  change (heap.builtins.push builtin).getD heap.builtins.size default = builtin
  rw [Array.getD_eq_getD_getElem?, Array.getElem?_push_size]
  rfl

/-- A name that functions were installed under leads to one of them. -/
theorem installed_of_get? {heap : Heap} {builtins : List Builtin} {bound : Bindings Value}
    {name : String} {value : Value}
    (found : (heap.installAll builtins bound).1.get? name = some value) :
    bound.get? name = some value ∨
      ∃ id, value = .builtin id ∧ (heap.installAll builtins bound).2.builtin id ∈ builtins := by
  induction builtins generalizing heap bound with
  | nil => exact .inl found
  | cons builtin rest ih =>
      rcases ih found with old | ⟨id, rfl, listed⟩
      · rw [Bindings.get?_insert] at old
        split at old
        · refine .inr ⟨(heap.newBuiltin builtin).1, (Option.some.inj old).symm, ?_⟩
          have there : heap.builtins.size < (heap.builtins.push builtin).size := by simp
          have kept := builtin_of_added
            (Heap.builtins_installAll (heap.newBuiltin builtin).2 rest
              (bound.insert builtin.name (.builtin (heap.newBuiltin builtin).1))) there
          exact List.mem_cons.mpr (.inl (kept.trans (builtin_newBuiltin heap builtin)))
        · exact .inl old
      · exact .inr ⟨id, rfl, List.mem_cons_of_mem _ listed⟩

theorem get?_of_insertAll {bound : Bindings Value} {entries : List (String × Value)}
    {name : String} {value : Value} (found : (bound.insertAll entries).get? name = some value) :
    bound.get? name = some value ∨ (name, value) ∈ entries := by
  induction entries generalizing bound with
  | nil => exact .inl found
  | cons entry rest ih =>
      rcases ih found with old | later
      · rw [Bindings.get?_insert] at old
        split at old
        · rename_i same
          cases old
          exact .inr (same ▸ List.mem_cons_self)
        · exact .inl old
      · exact .inr (List.mem_cons_of_mem _ later)

/-- Beside constants, a name that leads to a function leads to one that was installed. -/
theorem listed_of_get? {heap : Heap} {builtins : List Builtin}
    {constants : List (String × Value)} {name : String} {id : BuiltinId}
    (plain : ∀ entry ∈ constants, entry.2 ≠ .builtin id)
    (found : (heap.installAll builtins (.ofList constants)).1.get? name = some (.builtin id)) :
    (heap.installAll builtins (.ofList constants)).2.builtin id ∈ builtins := by
  rcases installed_of_get? found with bound | ⟨other, same, listed⟩
  · rcases get?_of_insertAll bound with nothing | constant
    · cases nothing
    · exact absurd rfl (plain _ constant)
  · cases same
    exact listed

/-- The names of the mathematical module that are bound to functions lead to standard ones. -/
theorem isStandard_math {heap after : Heap} {library name : String} {exports : Bindings Value}
    {id : BuiltinId} (made : heap.newNative? library = some (exports, after))
    (found : exports.get? name = some (.builtin id)) : IsStandard after id := by
  unfold Heap.newNative? at made
  split at made
  · have installed := Option.some.inj made
    obtain rfl : _ = exports := congrArg Prod.fst installed
    obtain rfl : _ = after := congrArg Prod.snd installed
    exact List.mem_append_right _ (listed_of_get? (by simp [Data.mathConstants]) found)
  · cases made

/-- Standard functions stay what they are when others are added. -/
theorem IsStandard.grows {machine after : Machine} {id : BuiltinId}
    (standard : IsStandard machine.heap id) (grows : Grows machine after) :
    IsStandard after.heap id := by
  have named : ∀ builtin ∈ preludeFunctions ++ mathFunctions, builtin.name ≠ "" := by decide
  have there : id.index < machine.heap.builtins.size := by
    by_contra outside
    refine named _ standard ?_
    rw [Heap.builtin, Array.getD_eq_getD_getElem?,
      Array.getElem?_eq_none (Nat.le_of_not_lt outside)]
    rfl
  unfold IsStandard
  rwa [builtin_of_added grows there]

/-- The names of the standard environment lead to standard functions all through a session. -/
theorem isStandard_prelude {settings : Settings} {console : Console} {files : Files.Tree}
    {state : Session.State} (leads : Session.Leads (Session.start settings console files) state)
    {name : String} {id : BuiltinId}
    (found : (state.machine.heap.table preludeTable).get? name = some (.builtin id)) :
    IsStandard state.machine.heap id := by
  obtain ⟨prelude, grows⟩ := Session.standardIntact_leads leads
  have listed : (({} : Heap).newPrelude).2.builtin id ∈ preludeFunctions := by
    rw [prelude.2] at found
    have installed : (({} : Heap).newPrelude).1.get? name = some (.builtin id) := found
    unfold Heap.newPrelude at installed ⊢
    exact listed_of_get? (by simp [Data.preludeConstants]) installed
  have standard : IsStandard (Session.start settings console files).machine.heap id :=
    List.mem_append_left _ listed
  exact standard.grows grows

/-! ## Calls -/

/--
How a call of a function of the language goes, by the arguments that it is given:
refused before it begins, refused for want of room, or run on filled slots of which none
is missed.
-/
inductive BuiltinCourse (settings : Settings) (builtin : Builtin)
    (arguments : List (Option Value)) (site : CallSite) (machine : Machine) :
    Ending Value → Prop
  | refused {fault : Fault} (refuses : builtin.Refuses arguments)
      (misfit : builtin.Misfit arguments fault) (kind : fault.kind = .type) :
      BuiltinCourse settings builtin arguments site machine
        (.error (.error ⟨fault, site.frame.place site.span, site.frame.trail⟩) machine)
  | tooDeep {fault : Fault} (fits : ¬ builtin.Refuses arguments)
      (full : settings.maxDepth ≤ machine.depth) (kind : fault.kind = .recursion) :
      BuiltinCourse settings builtin arguments site machine
        (.error (.error ⟨fault, site.frame.place site.span, site.frame.trail⟩) machine)
  | ran {slots : List Slot} {action : Action Value} (fits : ¬ builtin.Refuses arguments)
      (room : machine.depth < settings.maxDepth) (fills : builtin.Fills arguments slots)
      (reads : runAtPlaces ⟨builtin.name, builtinFrame builtin site, site⟩ builtin.operation
        slots = some action) :
      BuiltinCourse settings builtin arguments site machine
        (withinCall settings site.frame site.span action machine)

/-- Slots that arguments were bound to are read without missing one. -/
theorem runAtPlaces_of_bind (call : BuiltinCall) {builtin : Builtin} {bound : Arguments}
    {arguments : List (Option Value)} (listed : builtin ∈ preludeFunctions ++ mathFunctions)
    (binds : builtin.bind arguments = .ok bound) :
    runAtPlaces call builtin.operation (builtin.slots bound) =
      some (runOperation call builtin.operation bound) := by
  obtain ⟨declared, variadic⟩ := declared_eq_valuesRead builtin listed
  have counted : bound.slots.length = valuesRead builtin.operation := by
    rw [← declared]
    exact Builtin.length_slots_of_bind binds
  have read := runAtPlaces_eq_some call bound.extras counted
  unfold Builtin.slots
  rw [variadic]
  simpa only [decide_eq_true_eq] using read

/--
A standard function is called with any arguments.  It is refused with a type error exactly
if there are too few arguments or too many or a placeholder stands for a required one, and
then it does not run; at the limit of active calls the recursion error comes instead.  In
all other cases it runs, each parameter has its slot, and whatever the function reads by a
place is there.
-/
theorem standard_functions_read_filled_slots {settings : Settings} {id : BuiltinId}
    {machine : Machine} (standard : IsStandard machine.heap id)
    (arguments : List (Option Value)) (site : CallSite) :
    BuiltinCourse settings (machine.heap.builtin id) arguments site machine
      (callBuiltin settings id arguments site machine) := by
  rw [callBuiltin_apply]
  cases binds : (machine.heap.builtin id).bind arguments with
  | error fault =>
      have misfit := Builtin.misfit_of_bind binds
      exact .refused misfit.refuses misfit misfit.kind
  | ok bound =>
      have fits := Builtin.not_refuses_of_bind binds
      rcases Nat.lt_or_ge machine.depth settings.maxDepth with room | full
      · exact .ran fits room (Builtin.fills_of_bind binds) (runAtPlaces_of_bind _ standard binds)
      · change BuiltinCourse _ _ _ _ _ (withinCall settings _ _ _ machine)
        rw [withinCall_of_full full]
        exact .tooDeep fits full rfl

/-- The last element of a list is removed, with a placeholder for the position. -/
theorem pop_reads_filled_slots :
    IsStandard (machineWith #[[.int 7]]).heap ⟨9⟩ ∧
      BuiltinCourse {}
        { name := "pop", operation := .pop, required := ["list"],
          optional := [("index", .int (-1))] }
        [some (.list ⟨0⟩), none] sampleSite (machineWith #[[.int 7]])
        (callBuiltin {} ⟨9⟩ [some (.list ⟨0⟩), none] sampleSite (machineWith #[[.int 7]])) := by
  have pop : preludeFunctions[9]? = some ((machineWith #[[.int 7]]).heap.builtin ⟨9⟩) := rfl
  have standard : IsStandard (machineWith #[[.int 7]]).heap ⟨9⟩ :=
    List.mem_append_left _ (List.mem_of_getElem? pop)
  exact ⟨standard, standard_functions_read_filled_slots standard _ _⟩

end Evaluation
end Scripting
