import Scripting.Data.Attributes
import Scripting.Data.Parameters
import Scripting.Data.Prelude

namespace Scripting
namespace Data

/-!
A heap placed inside another one.

What a module makes does not depend on what was there before, except that identities count
from there.  To say this, a heap is placed inside another one: the prelude is common to both,
and everything else comes after the things that are there already.  Identities move
accordingly, and with them all values and everything that is made of values.

The lemmas say that each way to read the heap, to create something on it and to change it
commutes with placing it.
-/

/-! ## Stores -/

/-- The place of a thing when the first ones keep theirs and the others come after `size` things. -/
def shift (kept size index : Nat) : Nat :=
  if index < kept then index else index - kept + size

/-- A store inside another one, with which it has its first things in common. -/
def placed {α : Type} (kept : Nat) (outside : Array α) (change : α → α) (store : Array α) :
    Array α :=
  (store.extract 0 kept).map change ++ outside.extract kept outside.size ++
    (store.extract kept store.size).map change

section Stores

variable {α : Type} {kept : Nat} {outside store : Array α} {change : α → α}

theorem shift_injective {kept size first second : Nat} (fits : kept ≤ size)
    (same : shift kept size first = shift kept size second) : first = second := by
  unfold shift at same
  split at same <;> split at same <;> omega

/-- What stands where: the common things, those around, and the others. -/
theorem getElem?_placed_raw (fits : kept ≤ outside.size) (stocked : kept ≤ store.size)
    (index : Nat) :
    (placed kept outside change store)[index]? =
      if index < kept then store[index]?.map change
      else if index < outside.size then outside[index]?
      else store[index - outside.size + kept]?.map change := by
  have common : ((store.extract 0 kept).map change).size = kept := by
    rw [Array.size_map, Array.size_extract]
    omega
  have between : (outside.extract kept outside.size).size = outside.size - kept := by
    rw [Array.size_extract]
    omega
  unfold placed
  rw [Array.getElem?_append, Array.getElem?_append, Array.size_append, common, between]
  by_cases first : index < kept
  · have within : index < kept + (outside.size - kept) := by omega
    have extracted : index < min kept store.size - 0 := by omega
    rw [if_pos within, if_pos first, if_pos first, Array.getElem?_map, Array.getElem?_extract,
      if_pos extracted, Nat.zero_add]
  · by_cases second : index < outside.size
    · have within : index < kept + (outside.size - kept) := by omega
      have extracted : index - kept < min outside.size outside.size - kept := by omega
      have same : kept + (index - kept) = index := by omega
      rw [if_pos within, if_neg first, if_neg first, if_pos second, Array.getElem?_extract,
        if_pos extracted, same]
    · have beyond : ¬ index < kept + (outside.size - kept) := by omega
      have same : kept + (index - (kept + (outside.size - kept))) =
          index - outside.size + kept := by omega
      rw [if_neg beyond, if_neg first, if_neg second, Array.getElem?_map, Array.getElem?_extract,
        same]
      split
      · rfl
      · have none : store[index - outside.size + kept]? = none := by
          rw [Array.getElem?_eq_none_iff]
          omega
        rw [none]

theorem getElem?_placed (fits : kept ≤ outside.size) (stocked : kept ≤ store.size)
    (index : Nat) :
    (placed kept outside change store)[shift kept outside.size index]? =
      store[index]?.map change := by
  rw [getElem?_placed_raw fits stocked]
  unfold shift
  by_cases first : index < kept
  · rw [if_pos first, if_pos first]
  · have late : ¬ index - kept + outside.size < kept := by omega
    have beyond : ¬ index - kept + outside.size < outside.size := by omega
    have same : index - kept + outside.size - outside.size + kept = index := by omega
    rw [if_neg first, if_neg late, if_neg beyond, same]

/-- Reading past the end gives the same everywhere, if placing leaves it as it is. -/
theorem getD_placed (fits : kept ≤ outside.size) (stocked : kept ≤ store.size) {fallback : α}
    (plain : change fallback = fallback) (index : Nat) :
    (placed kept outside change store).getD (shift kept outside.size index) fallback =
      change (store.getD index fallback) := by
  rw [Array.getD_eq_getD_getElem?, getElem?_placed fits stocked, Array.getD_eq_getD_getElem?]
  cases store[index]? with
  | some thing => rfl
  | none => exact plain.symm

theorem size_placed (fits : kept ≤ outside.size) (stocked : kept ≤ store.size) :
    (placed kept outside change store).size = shift kept outside.size store.size := by
  unfold placed shift
  rw [if_neg (Nat.not_lt_of_le stocked)]
  simp only [Array.size_append, Array.size_map, Array.size_extract]
  omega

theorem placed_push (stocked : kept ≤ store.size) (thing : α) :
    placed kept outside change (store.push thing) =
      (placed kept outside change store).push (change thing) := by
  have late : ¬ store.size + 1 ≤ store.size := by omega
  unfold placed
  rw [Array.size_push, Array.extract_push, if_pos stocked, Array.extract_push, if_neg late,
    if_pos stocked, Array.map_push, Array.append_push]

/-- Nothing else is found where something of the store is. -/
theorem shift_eq_iff (fits : kept ≤ outside.size) {index place : Nat} :
    shift kept outside.size index = place ↔
      (place < kept ∧ index = place) ∨
        (outside.size ≤ place ∧ kept ≤ index ∧ index = place - outside.size + kept) := by
  unfold shift
  split <;> omega

theorem placed_modify (fits : kept ≤ outside.size) (stocked : kept ≤ store.size)
    (update update' : α → α) (commutes : ∀ thing, change (update thing) = update' (change thing))
    (index : Nat) :
    placed kept outside change (store.modify index update) =
      (placed kept outside change store).modify (shift kept outside.size index) update' := by
  have stocked' : kept ≤ (store.modify index update).size := by
    rw [Array.size_modify]
    exact stocked
  have updated : ∀ place, (store.modify index update)[place]?.map change =
      if index = place then (store[place]?.map change).map update'
      else store[place]?.map change := by
    intro place
    rw [Array.getElem?_modify]
    split
    · cases store[place]? with
      | some thing => exact congrArg some (commutes thing)
      | none => rfl
    · rfl
  refine Array.ext_getElem? fun place => ?_
  rw [Array.getElem?_modify, getElem?_placed_raw fits stocked, getElem?_placed_raw fits stocked',
    updated, updated]
  have found := @shift_eq_iff _ kept outside fits index place
  grind

theorem placed_setIfInBounds (fits : kept ≤ outside.size) (stocked : kept ≤ store.size)
    (index : Nat) (thing : α) :
    placed kept outside change (store.setIfInBounds index thing) =
      (placed kept outside change store).setIfInBounds (shift kept outside.size index)
        (change thing) := by
  have replaced : ∀ (things : Array α) (place : Nat) (other : α),
      things.setIfInBounds place other = things.modify place fun _ => other := by
    intro things place other
    refine Array.ext_getElem? fun spot => ?_
    rw [Array.getElem?_setIfInBounds, Array.getElem?_modify]
    grind
  rw [replaced, replaced]
  exact placed_modify fits stocked (fun _ => thing) (fun _ => change thing) (fun _ => rfl) index

end Stores

/-! ## Bindings -/

namespace Bindings

variable {α β : Type}

theorem ext_entries {bindings other : Bindings α} (same : bindings.entries = other.entries) :
    bindings = other := by
  cases bindings
  cases other
  cases same
  rfl

theorem get?_map (change : α → β) (bindings : Bindings α) (name : String) :
    (bindings.map change).get? name = (bindings.get? name).map change := by
  obtain ⟨entries, distinct⟩ := bindings
  simp only [get?, map]
  clear distinct
  induction entries with
  | nil => rfl
  | cons entry rest ih =>
      obtain ⟨key, value⟩ := entry
      simp only [List.map_cons, List.lookup_cons]
      split
      · rfl
      · exact ih

theorem names_map (change : α → β) (bindings : Bindings α) :
    (bindings.map change).names = bindings.names := by
  simp only [names, map, List.map_map]
  rfl

theorem map_insert (change : α → β) (bindings : Bindings α) (name : String) (value : α) :
    (bindings.insert name value).map change = (bindings.map change).insert name (change value) := by
  obtain ⟨entries, distinct⟩ := bindings
  refine ext_entries ?_
  simp only [insert, map]
  clear distinct
  induction entries with
  | nil => rfl
  | cons entry rest ih =>
      simp only [bindEntry, List.map_cons]
      split
      · rfl
      · rw [List.map_cons, ih]

theorem map_erase (change : α → β) (bindings : Bindings α) (name : String) :
    (bindings.erase name).map change = (bindings.map change).erase name := by
  refine ext_entries ?_
  simp only [erase, map, List.filter_map]
  rfl

theorem map_insertAll (change : α → β) (bindings : Bindings α) (entries : List (String × α)) :
    (bindings.insertAll entries).map change =
      (bindings.map change).insertAll (entries.map fun entry => (entry.1, change entry.2)) := by
  unfold insertAll
  induction entries generalizing bindings with
  | nil => rfl
  | cons entry rest ih => rw [List.map_cons, List.foldl_cons, List.foldl_cons, ih, map_insert]

end Bindings

/-! ## Values -/

/--
A heap to place others in: they have its first table, that of the prelude, in common with it,
and the functions of the language that belong to the prelude.
-/
structure Surroundings where
  outside : Heap
  standard : Nat
  prelude : 1 ≤ outside.tables.size
  functions : standard ≤ outside.builtins.size

namespace Surroundings

variable (around : Surroundings)

def list (id : ListId) : ListId := ⟨shift 0 around.outside.lists.size id.index⟩

def object (id : ObjectId) : ObjectId := ⟨shift 0 around.outside.objects.size id.index⟩

def constructor (id : ClassId) : ClassId := ⟨shift 0 around.outside.classes.size id.index⟩

def function (id : FunctionId) : FunctionId := ⟨shift 0 around.outside.functions.size id.index⟩

def builtin (id : BuiltinId) : BuiltinId :=
  ⟨shift around.standard around.outside.builtins.size id.index⟩

def library (id : ModuleId) : ModuleId := ⟨shift 0 around.outside.libraries.size id.index⟩

def table (id : TableId) : TableId := ⟨shift 1 around.outside.tables.size id.index⟩

def exports (id : ExportsId) : ExportsId := ⟨shift 0 around.outside.exports.size id.index⟩

/-- A value with its identity counted from the surroundings. -/
def value : Value → Value
  | .nothing => .nothing
  | .int n => .int n
  | .float x => .float x
  | .text s => .text s
  | .list id => .list (around.list id)
  | .library id => .library (around.library id)
  | .constructor id => .constructor (around.constructor id)
  | .object id => .object (around.object id)
  | .function id => .function (around.function id)
  | .method id receiver => .method (around.function id) (around.object receiver)
  | .builtin id => .builtin (around.builtin id)

def values (items : List Value) : List Value :=
  items.map around.value

def bindings (bound : Bindings Value) : Bindings Value :=
  bound.map around.value

def scope (scope : Scope) : Scope :=
  ⟨around.table scope.inner, scope.outer.map around.table⟩

/-! ## Things -/

def placeObject (object : Object) : Object :=
  ⟨around.constructor object.constructor, around.bindings object.attributes⟩

def placeClass (definition : Class) : Class :=
  ⟨definition.name, around.bindings definition.members,
    definition.ancestors.map around.constructor⟩

def placeFunction (function : Function) : Function :=
  { function with scope := around.scope function.scope }

def placeBuiltin (builtin : Builtin) : Builtin :=
  { builtin with
    optional := builtin.optional.map fun parameter => (parameter.1, around.value parameter.2) }

def placeLibrary (library : Library) : Library :=
  ⟨library.name, around.bindings library.exports⟩

/-- A heap inside its surroundings. -/
def heap (inner : Heap) : Heap where
  lists := placed 0 around.outside.lists around.values inner.lists
  objects := placed 0 around.outside.objects around.placeObject inner.objects
  classes := placed 0 around.outside.classes around.placeClass inner.classes
  functions := placed 0 around.outside.functions around.placeFunction inner.functions
  builtins := placed around.standard around.outside.builtins around.placeBuiltin inner.builtins
  libraries := placed 0 around.outside.libraries around.placeLibrary inner.libraries
  tables := placed 1 around.outside.tables around.bindings inner.tables
  exports := placed 0 around.outside.exports around.bindings inner.exports

/-- What a heap has in common with its surroundings is there. -/
structure Stocked (inner : Heap) : Prop where
  prelude : 1 ≤ inner.tables.size
  functions : around.standard ≤ inner.builtins.size

variable {around}

/-- Placing keeps values apart. -/
theorem value_injective {left right : Value} (same : around.value left = around.value right) :
    left = right := by
  have apart : ∀ {size first second : Nat}, shift 0 size first = shift 0 size second →
      first = second := shift_injective (Nat.zero_le _)
  have together : ∀ {first second : Nat},
      shift around.standard around.outside.builtins.size first =
        shift around.standard around.outside.builtins.size second → first = second :=
    shift_injective around.functions
  rcases left with _ | _ | _ | _ | ⟨⟨i⟩⟩ | ⟨⟨i⟩⟩ | ⟨⟨i⟩⟩ | ⟨⟨i⟩⟩ | ⟨⟨i⟩⟩ | ⟨⟨i⟩, ⟨k⟩⟩ | ⟨⟨i⟩⟩ <;>
    rcases right with _ | _ | _ | _ | ⟨⟨j⟩⟩ | ⟨⟨j⟩⟩ | ⟨⟨j⟩⟩ | ⟨⟨j⟩⟩ | ⟨⟨j⟩⟩ | ⟨⟨j⟩, ⟨l⟩⟩ | ⟨⟨j⟩⟩ <;>
    simp only [value, reduceCtorEq] at same ⊢ <;>
    simp only [Value.int.injEq, Value.float.injEq, Value.text.injEq, Value.list.injEq,
      Value.library.injEq, Value.constructor.injEq, Value.object.injEq, Value.function.injEq,
      Value.method.injEq, Value.builtin.injEq, list, library, constructor, object, function,
      builtin, ListId.mk.injEq, ModuleId.mk.injEq, ClassId.mk.injEq, ObjectId.mk.injEq,
      FunctionId.mk.injEq, BuiltinId.mk.injEq] at same ⊢ <;>
    grind

theorem list_injective {left right : ListId} (same : around.list left = around.list right) :
    left = right := by
  have values : around.value (.list left) = around.value (.list right) := congrArg Value.list same
  cases value_injective values
  rfl

/-! ## Reading -/

section Reading

variable {inner : Heap}

theorem list_heap (id : ListId) :
    (around.heap inner).list (around.list id) = around.values (inner.list id) :=
  getD_placed (Nat.zero_le _) (Nat.zero_le _) rfl id.index

theorem getElem?_objects_heap (id : ObjectId) :
    (around.heap inner).objects[(around.object id).index]? =
      inner.objects[id.index]?.map around.placeObject :=
  getElem?_placed (Nat.zero_le _) (Nat.zero_le _) id.index

theorem attributes_object_heap (id : ObjectId) :
    ((around.heap inner).object (around.object id)).attributes =
      around.bindings (inner.object id).attributes := by
  unfold Heap.object
  rw [Array.getD_eq_getD_getElem?, Array.getD_eq_getD_getElem?, getElem?_objects_heap]
  cases inner.objects[id.index]? <;> rfl

theorem constructor_heap (id : ClassId) :
    (around.heap inner).constructor (around.constructor id) =
      around.placeClass (inner.constructor id) :=
  getD_placed (Nat.zero_le _) (Nat.zero_le _) rfl id.index

theorem function_heap (id : FunctionId) :
    (around.heap inner).function (around.function id) =
      around.placeFunction (inner.function id) :=
  getD_placed (Nat.zero_le _) (Nat.zero_le _) rfl id.index

theorem library_heap (id : ModuleId) :
    (around.heap inner).library (around.library id) = around.placeLibrary (inner.library id) :=
  getD_placed (Nat.zero_le _) (Nat.zero_le _) rfl id.index

theorem exported_heap (id : ExportsId) :
    (around.heap inner).exported (around.exports id) = around.bindings (inner.exported id) :=
  getD_placed (Nat.zero_le _) (Nat.zero_le _) rfl id.index

theorem builtin_heap (stocked : around.Stocked inner) (id : BuiltinId) :
    (around.heap inner).builtin (around.builtin id) = around.placeBuiltin (inner.builtin id) :=
  getD_placed around.functions stocked.functions rfl id.index

theorem table_heap (stocked : around.Stocked inner) (id : TableId) :
    (around.heap inner).table (around.table id) = around.bindings (inner.table id) :=
  getD_placed around.prelude stocked.prelude rfl id.index

theorem tables_scope (scope : Scope) :
    (around.scope scope).tables = scope.tables.map around.table :=
  rfl

theorem lookup?_heap (stocked : around.Stocked inner) (scope : Scope) (name : String) :
    (around.heap inner).lookup? (around.scope scope) name =
      (inner.lookup? scope name).map around.value := by
  unfold Heap.lookup?
  rw [tables_scope]
  induction scope.tables with
  | nil => rfl
  | cons id rest ih =>
      rw [List.map_cons, List.findSome?_cons, List.findSome?_cons, table_heap stocked, bindings,
        Bindings.get?_map, ih]
      cases (inner.table id).get? name <;> rfl

theorem visibleNames_heap (stocked : around.Stocked inner) (scope : Scope) :
    (around.heap inner).visibleNames (around.scope scope) = inner.visibleNames scope := by
  unfold Heap.visibleNames
  rw [tables_scope, List.flatMap_map]
  have same : ∀ id, ((around.heap inner).table (around.table id)).names =
      (inner.table id).names := by
    intro id
    rw [table_heap stocked]
    exact Bindings.names_map around.value (inner.table id)
  simp only [same]

end Reading

/-! ## Creation -/

section Creation

variable (inner : Heap)

theorem newList_heap (items : List Value) :
    (around.heap inner).newList (around.values items) =
      (around.list (inner.newList items).1, around.heap (inner.newList items).2) := by
  unfold Heap.newList heap list
  rw [placed_push (Nat.zero_le _), size_placed (Nat.zero_le _) (Nat.zero_le _)]

theorem newObject_heap (made : Object) :
    (around.heap inner).newObject (around.placeObject made) =
      (around.object (inner.newObject made).1, around.heap (inner.newObject made).2) := by
  unfold Heap.newObject heap object
  rw [placed_push (Nat.zero_le _), size_placed (Nat.zero_le _) (Nat.zero_le _)]

theorem newClass_heap (made : Class) :
    (around.heap inner).newClass (around.placeClass made) =
      (around.constructor (inner.newClass made).1, around.heap (inner.newClass made).2) := by
  unfold Heap.newClass heap constructor
  rw [placed_push (Nat.zero_le _), size_placed (Nat.zero_le _) (Nat.zero_le _)]

theorem newFunction_heap (made : Function) :
    (around.heap inner).newFunction (around.placeFunction made) =
      (around.function (inner.newFunction made).1, around.heap (inner.newFunction made).2) := by
  unfold Heap.newFunction heap function
  rw [placed_push (Nat.zero_le _), size_placed (Nat.zero_le _) (Nat.zero_le _)]

theorem newLibrary_heap (made : Library) :
    (around.heap inner).newLibrary (around.placeLibrary made) =
      (around.library (inner.newLibrary made).1, around.heap (inner.newLibrary made).2) := by
  unfold Heap.newLibrary heap library
  rw [placed_push (Nat.zero_le _), size_placed (Nat.zero_le _) (Nat.zero_le _)]

theorem newExports_heap :
    (around.heap inner).newExports =
      (around.exports inner.newExports.1, around.heap inner.newExports.2) := by
  unfold Heap.newExports heap exports
  rw [placed_push (Nat.zero_le _), size_placed (Nat.zero_le _) (Nat.zero_le _)]
  rfl

variable {inner}

theorem newBuiltin_heap (stocked : around.Stocked inner) (made : Builtin) :
    (around.heap inner).newBuiltin (around.placeBuiltin made) =
      (around.builtin (inner.newBuiltin made).1, around.heap (inner.newBuiltin made).2) := by
  unfold Heap.newBuiltin heap builtin
  rw [placed_push stocked.functions, size_placed around.functions stocked.functions]

theorem newScope_heap (stocked : around.Stocked inner) (bound : Bindings Value)
    (enclosing : List TableId) :
    (around.heap inner).newScope (around.bindings bound) (enclosing.map around.table) =
      (around.scope (inner.newScope bound enclosing).1,
        around.heap (inner.newScope bound enclosing).2) := by
  unfold Heap.newScope Heap.newTable heap scope table
  rw [placed_push stocked.prelude, size_placed around.prelude stocked.prelude]

theorem Stocked.newBuiltin (stocked : around.Stocked inner) (made : Builtin) :
    around.Stocked (inner.newBuiltin made).2 := by
  refine ⟨stocked.prelude, Nat.le_trans stocked.functions ?_⟩
  simp only [Heap.newBuiltin, Array.size_push]
  exact Nat.le_succ _

theorem Stocked.installAll (stocked : around.Stocked inner) (builtins : List Builtin)
    (bound : Bindings Value) : around.Stocked (inner.installAll builtins bound).2 := by
  induction builtins generalizing inner bound with
  | nil => exact stocked
  | cons builtin rest ih => exact ih (stocked.newBuiltin builtin) _

/-- Functions of the language that have no values to move are bound alike. -/
theorem installAll_heap (stocked : around.Stocked inner) (builtins : List Builtin)
    (plain : ∀ builtin ∈ builtins, around.placeBuiltin builtin = builtin)
    (bound : Bindings Value) :
    (around.heap inner).installAll builtins (around.bindings bound) =
      (around.bindings (inner.installAll builtins bound).1,
        around.heap (inner.installAll builtins bound).2) := by
  induction builtins generalizing inner bound with
  | nil => rfl
  | cons builtin rest ih =>
      have made := newBuiltin_heap stocked builtin
      rw [plain builtin List.mem_cons_self] at made
      have rest := ih (stocked.newBuiltin builtin) (fun other member => plain other (List.mem_cons_of_mem _ member))
        (bound.insert builtin.name (.builtin (inner.newBuiltin builtin).1))
      unfold Heap.installAll
      rw [made]
      rw [bindings, Bindings.map_insert] at rest
      exact rest

end Creation

/-! ## Change -/

section Change

variable {inner : Heap}

theorem setList_heap (id : ListId) (items : List Value) :
    (around.heap inner).setList (around.list id) (around.values items) =
      around.heap (inner.setList id items) := by
  have changed := @placed_setIfInBounds _ 0 around.outside.lists inner.lists around.values
    (Nat.zero_le _) (Nat.zero_le _) id.index items
  unfold Heap.setList heap
  rw [changed]
  rfl

theorem setAttribute_heap (id : ObjectId) (name : String) (value : Value) :
    (around.heap inner).setAttribute (around.object id) name (around.value value) =
      around.heap (inner.setAttribute id name value) := by
  have found := @getElem?_objects_heap around inner id
  unfold Heap.setAttribute Heap.object
  rw [Array.getD_eq_getD_getElem?, Array.getD_eq_getD_getElem?, found]
  cases there : inner.objects[id.index]? with
  | some object =>
      have changed := @placed_setIfInBounds _ 0 around.outside.objects inner.objects
        around.placeObject (Nat.zero_le _) (Nat.zero_le _) id.index
        { object with attributes := object.attributes.insert name value }
      simp only [Option.map_some, Option.getD_some, heap]
      rw [changed]
      simp only [placeObject, bindings, Bindings.map_insert]
      rfl
  | none =>
      -- Past the end there is nothing to change on either side.
      have beyond := Array.getElem?_eq_none_iff.mp there
      rw [there] at found
      have beyond' := Array.getElem?_eq_none_iff.mp found
      simp only [Array.setIfInBounds_eq_of_size_le beyond,
        Array.setIfInBounds_eq_of_size_le beyond']

theorem bindings_insert (bound : Bindings Value) (name : String) (value : Value) :
    around.bindings (bound.insert name value) =
      (around.bindings bound).insert name (around.value value) :=
  Bindings.map_insert around.value bound name value

theorem bindings_erase (bound : Bindings Value) (name : String) :
    around.bindings (bound.erase name) = (around.bindings bound).erase name :=
  Bindings.map_erase around.value bound name

theorem bind_heap (stocked : around.Stocked inner) (id : TableId) (name : String)
    (value : Value) :
    (around.heap inner).bind (around.table id) name (around.value value) =
      around.heap (inner.bind id name value) := by
  have changed := placed_modify around.prelude stocked.prelude (·.insert name value)
    (·.insert name (around.value value)) (fun bound => bindings_insert bound name value) id.index
  simp only [Heap.bind, heap]
  rw [changed]
  rfl

theorem unbind_heap (stocked : around.Stocked inner) (id : TableId) (name : String) :
    (around.heap inner).unbind (around.table id) name = around.heap (inner.unbind id name) := by
  have changed := placed_modify around.prelude stocked.prelude (·.erase name) (·.erase name)
    (fun bound => @bindings_erase around bound name) id.index
  simp only [Heap.unbind, heap]
  rw [changed]
  rfl

theorem addExport_heap (id : ExportsId) (name : String) (value : Value) :
    (around.heap inner).addExport (around.exports id) name (around.value value) =
      around.heap (inner.addExport id name value) := by
  have changed := @placed_modify _ 0 around.outside.exports inner.exports around.bindings
    (Nat.zero_le _) (Nat.zero_le _) (·.insert name value) (·.insert name (around.value value))
    (fun bound => bindings_insert bound name value) id.index
  simp only [Heap.addExport, heap]
  rw [changed]
  rfl

end Change

end Surroundings

end Data
end Scripting
