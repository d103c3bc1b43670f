import Scripting.Data.Attributes
import Scripting.Data.Prelude
import Scripting.Proofs.AvoidedNames
import Scripting.Proofs.PlainData
import Scripting.Proofs.ValueSources

namespace Scripting
namespace Data

/-!
Heaps on which lists are out of danger.

Six functions of the language change the list that they are given, and every program starts with
them bound under their names.  On a tame heap they are bound under no other name, no list holds
one of them, and no function that has been defined mentions their names.  Then nobody gets hold
of one of them who does not know its name.
-/

open Program (Node)

/-- Functions of the language that change a list. -/
def Operation.changesList : Operation → Bool
  | .append | .pop | .insert | .extend | .reverse | .sort => true
  | _ => false

/-- The names under which programs find them. -/
def changerNames : List String :=
  ["append", "pop", "insert", "extend", "reverse", "sort"]

/-- They have these names among the functions that every program starts with. -/
theorem changesList_iff : ∀ builtin ∈ preludeFunctions,
    builtin.operation.changesList = true ↔ builtin.name ∈ changerNames := by
  decide

/-- Functions of the language are created first, so they are known by their places. -/
def BuiltinId.changesList (id : BuiltinId) : Bool :=
  preludeFunctions[id.index]?.any fun builtin => builtin.operation.changesList

/-- A value that is not itself a function that changes a list. -/
def Value.Tame : Value → Prop
  | .builtin id => id.changesList = false
  | _ => True

/-- Only the names of the functions that change lists may be bound to them. -/
def Bindings.Tame (bound : Bindings Value) : Prop :=
  ∀ entry ∈ bound.entries, entry.1 ∉ changerNames → entry.2.Tame

/-- Arguments, as far as they have values. -/
def TameArguments (arguments : List (Option Value)) : Prop :=
  ∀ argument ∈ arguments, ∀ value ∈ argument, value.Tame

/-- A function that does not mention the names. -/
structure Function.Tame (function : Function) : Prop where
  body : function.body.Avoids changerNames
  optional : ∀ parameter ∈ function.optional, parameter.2.Avoids changerNames

structure Heap.Tame (heap : Heap) : Prop where
  lists : ∀ items ∈ heap.lists, ∀ item ∈ items, item.Tame
  objects : ∀ object ∈ heap.objects, object.attributes.Tame
  classes : ∀ definition ∈ heap.classes, definition.members.Tame
  functions : ∀ function ∈ heap.functions, function.Tame
  /-- The functions that every program starts with are there. -/
  prelude : preludeFunctions.length ≤ heap.builtins.size
  /-- What changes a list is at the place of a function that does. -/
  changers : ∀ id : BuiltinId, (heap.builtin id).operation.changesList = true →
    id.changesList = true
  libraries : ∀ library ∈ heap.libraries, library.exports.Tame
  tables : ∀ table ∈ heap.tables, table.Tame
  exports : ∀ exported ∈ heap.exports, exported.Tame

/-! ## Values -/

theorem Value.tame_of_isPlain {value : Value} (plain : value.IsPlain) : value.Tame := by
  cases value with
  | builtin id => cases plain
  | _ => trivial

theorem Value.tame_bindTo {value : Value} (tame : value.Tame) (receiver : ObjectId) :
    (bindTo receiver value).Tame := by
  cases value with
  | builtin id => exact tame
  | _ => trivial

/-! ## Bindings -/

namespace Bindings

variable {bound : Bindings Value}

theorem tame_empty : (empty : Bindings Value).Tame :=
  nofun

theorem Tame.get? (tame : bound.Tame) {name : String} (other : name ∉ changerNames) {value : Value}
    (found : bound.get? name = some value) : value.Tame := by
  obtain ⟨before, after, split, -⟩ := List.lookup_eq_some_iff.mp found
  refine tame (name, value) ?_ other
  rw [split]
  exact List.mem_append_right _ List.mem_cons_self

theorem eq_or_mem_of_mem_bindEntry {name : String} {value : Value}
    {entries : List (String × Value)} {entry : String × Value}
    (member : entry ∈ bindEntry name value entries) : entry = (name, value) ∨ entry ∈ entries := by
  induction entries with
  | nil => exact .inl (List.mem_singleton.mp member)
  | cons first rest ih =>
      obtain ⟨key, old⟩ := first
      unfold bindEntry at member
      split at member
      · rename_i same
        rcases List.mem_cons.mp member with rfl | later
        · exact .inl (by rw [same])
        · exact .inr (List.mem_cons_of_mem _ later)
      · rcases List.mem_cons.mp member with rfl | later
        · exact .inr List.mem_cons_self
        · exact (ih later).imp_right (List.mem_cons_of_mem _)

/-- Under one of the names anything may be bound. -/
theorem Tame.insert (tame : bound.Tame) {name : String} {value : Value}
    (added : name ∉ changerNames → value.Tame) : (bound.insert name value).Tame := by
  intro entry member other
  rcases eq_or_mem_of_mem_bindEntry member with rfl | old
  · exact added other
  · exact tame entry old other

theorem Tame.erase (tame : bound.Tame) (name : String) : (bound.erase name).Tame :=
  fun entry member => tame entry (List.mem_of_mem_filter member)

theorem Tame.insertAll (tame : bound.Tame) {entries : List (String × Value)}
    (added : ∀ entry ∈ entries, entry.1 ∉ changerNames → entry.2.Tame) :
    (bound.insertAll entries).Tame := by
  induction entries generalizing bound with
  | nil => exact tame
  | cons entry rest ih =>
      obtain ⟨first, others⟩ := List.forall_mem_cons.mp added
      exact ih (tame.insert first) others

theorem Tame.bindTo (tame : bound.Tame) (receiver : ObjectId) :
    (bound.map (bindTo receiver)).Tame := by
  intro entry member other
  obtain ⟨old, listed, rfl⟩ := List.mem_map.mp member
  exact Value.tame_bindTo (tame old listed other) receiver

end Bindings

/-! ## Lists that are kept -/

namespace Heap

variable {heap before after : Heap}

theorem ListsKept.refl (heap : Heap) : heap.ListsKept heap :=
  fun _ _ there => there

theorem ListsKept.trans (first : heap.ListsKept before) (second : before.ListsKept after) :
    heap.ListsKept after :=
  fun place items there => second place items (first place items there)

theorem ListsKept.of_eq (same : after.lists = before.lists) : before.ListsKept after := by
  intro place items there
  rw [same]
  exact there

theorem ListsKept.newList (heap : Heap) (items : List Value) :
    heap.ListsKept (heap.newList items).2 := by
  intro place others there
  change (heap.lists.push items)[place]? = some others
  obtain ⟨bound, -⟩ := Array.getElem?_eq_some_iff.mp there
  rw [Array.getElem?_push_lt bound]
  exact there ▸ (Array.getElem?_eq_getElem bound).symm

theorem lists_installAll (heap : Heap) (builtins : List Builtin) (bound : Bindings Value) :
    (heap.installAll builtins bound).2.lists = heap.lists := by
  induction builtins generalizing heap bound with
  | nil => rfl
  | cons builtin rest ih => exact ih _ _

theorem ListsKept.newNative? {name : String} {made : Bindings Value × Heap}
    (found : heap.newNative? name = some made) : heap.ListsKept made.2 := by
  unfold Heap.newNative? at found
  split at found
  · cases found
    exact .of_eq (lists_installAll heap _ _)
  · cases found

/-! ## The prelude -/

/-- What is installed in its place in the prelude is bound under its name. -/
theorem tame_installPrelude {builtins : List Builtin} {bound : Bindings Value} (held : bound.Tame)
    (placed : preludeFunctions.drop heap.builtins.size = builtins) :
    (heap.installAll builtins bound).1.Tame := by
  induction builtins generalizing heap bound with
  | nil => exact held
  | cons builtin rest ih =>
      have here : preludeFunctions[heap.builtins.size]? = some builtin := by
        rw [← List.head?_drop, placed, List.head?_cons]
      have next : preludeFunctions.drop (heap.newBuiltin builtin).2.builtins.size = rest := by
        change preludeFunctions.drop (heap.builtins.push builtin).size = rest
        rw [Array.size_push, ← List.tail_drop, placed, List.tail_cons]
      refine ih (held.insert fun other => ?_) next
      change (preludeFunctions[heap.builtins.size]?.any _) = false
      rw [here]
      refine Bool.eq_false_iff.mpr fun changes => other ?_
      exact (changesList_iff builtin (List.mem_of_getElem? here)).mp changes

theorem tame_newPrelude : (({} : Heap).newPrelude).1.Tame := by
  have constants : ∀ entry ∈ preludeConstants, entry.2.Tame := by
    simp [preludeConstants, Value.Tame]
  exact tame_installPrelude
    (Bindings.tame_empty.insertAll fun entry member _ => constants entry member) rfl

/-! ## Reading -/

namespace Tame

variable (tame : heap.Tame)
include tame

theorem list (id : ListId) : ∀ item ∈ heap.list id, item.Tame :=
  forall_getD (fun items : List Value => ∀ item ∈ items, item.Tame) tame.lists
    (List.forall_mem_nil _) id.index

theorem object (id : ObjectId) : (heap.object id).attributes.Tame :=
  forall_getD (fun object : Object => object.attributes.Tame) tame.objects Bindings.tame_empty
    id.index

theorem constructor (id : ClassId) : (heap.constructor id).members.Tame :=
  forall_getD (fun definition : Class => definition.members.Tame) tame.classes
    Bindings.tame_empty id.index

theorem function (id : FunctionId) : (heap.function id).Tame := by
  have empty : (default : Function).Tame :=
    ⟨.node (List.forall_mem_nil _) (List.forall_mem_nil _), List.forall_mem_nil _⟩
  exact forall_getD Function.Tame tame.functions empty id.index

/-- A function that is not a changer does not change a list. -/
theorem harmless {id : BuiltinId} (other : (Value.builtin id).Tame) :
    (heap.builtin id).operation.changesList = false := by
  cases changes : (heap.builtin id).operation.changesList with
  | false => rfl
  | true => exact absurd (tame.changers id changes) (Bool.eq_false_iff.mp other)

theorem library (id : ModuleId) : (heap.library id).exports.Tame :=
  forall_getD (fun library : Library => library.exports.Tame) tame.libraries Bindings.tame_empty
    id.index

theorem table (id : TableId) : (heap.table id).Tame :=
  forall_getD Bindings.Tame tame.tables Bindings.tame_empty id.index

theorem exported (id : ExportsId) : (heap.exported id).Tame :=
  forall_getD Bindings.Tame tame.exports Bindings.tame_empty id.index

theorem lookup? {scope : Scope} {name : String} (other : name ∉ changerNames) {value : Value}
    (found : heap.lookup? scope name = some value) : value.Tame := by
  obtain ⟨id, -, here⟩ := List.exists_of_findSome?_eq_some found
  exact (tame.table id).get? other here

theorem attribute? {id : ObjectId} {name : String} (other : name ∉ changerNames) {value : Value}
    (found : heap.attribute? id name = some value) : value.Tame := by
  obtain ⟨stored, here, rfl⟩ := Option.map_eq_some_iff.mp found
  exact Value.tame_bindTo ((tame.object id).get? other here) id

theorem instanceAttributes (id : ClassId) : (heap.instanceAttributes (heap.constructor id)).Tame := by
  have inherited : ∀ (ancestors : List ClassId) (bound : Bindings Value), bound.Tame →
      (ancestors.foldl (fun bound ancestor =>
        bound.insertAll (heap.constructor ancestor).members.entries) bound).Tame := by
    intro ancestors
    induction ancestors with
    | nil => exact fun bound tame => tame
    | cons ancestor rest ih => exact fun bound held => ih _ (held.insertAll (tame.constructor ancestor))
  exact (inherited _ _ Bindings.tame_empty).insertAll (tame.constructor id)

theorem attributes (value : Value) : (heap.attributes value).Tame := by
  cases value with
  | object id => exact (tame.object id).bindTo id
  | library id => exact tame.library id
  | constructor id => exact tame.instanceAttributes id
  | _ => exact Bindings.tame_empty

/-! ## Creation and change -/

theorem newList {items : List Value} (added : ∀ item ∈ items, item.Tame) :
    (heap.newList items).2.Tame :=
  { tame with lists := forall_mem_push tame.lists added }

theorem newObject {object : Object} (added : object.attributes.Tame) :
    (heap.newObject object).2.Tame :=
  { tame with objects := forall_mem_push tame.objects added }

theorem newClass {definition : Class} (added : definition.members.Tame) :
    (heap.newClass definition).2.Tame :=
  { tame with classes := forall_mem_push tame.classes added }

theorem newFunction {function : Function} (added : function.Tame) :
    (heap.newFunction function).2.Tame :=
  { tame with functions := forall_mem_push tame.functions added }

theorem newLibrary {library : Library} (added : library.exports.Tame) :
    (heap.newLibrary library).2.Tame :=
  { tame with libraries := forall_mem_push tame.libraries added }

theorem newScope {bindings : Bindings Value} (added : bindings.Tame) (enclosing : List TableId) :
    (heap.newScope bindings enclosing).2.Tame :=
  { tame with tables := forall_mem_push tame.tables added }

theorem newExports : heap.newExports.2.Tame :=
  { tame with exports := forall_mem_push tame.exports Bindings.tame_empty }

theorem setAttribute (id : ObjectId) {name : String} {value : Value}
    (added : name ∉ changerNames → value.Tame) : (heap.setAttribute id name value).Tame :=
  { tame with
    objects := forall_mem_setIfInBounds tame.objects ((tame.object id).insert added) _ }

theorem bind (id : TableId) {name : String} {value : Value}
    (added : name ∉ changerNames → value.Tame) : (heap.bind id name value).Tame :=
  { tame with
    tables := forall_mem_modify tame.tables (fun _ bound => bound.insert added) _ }

theorem unbind (id : TableId) (name : String) : (heap.unbind id name).Tame :=
  { tame with tables := forall_mem_modify tame.tables (fun _ bound => bound.erase name) _ }

theorem addExport (id : ExportsId) {name : String} {value : Value}
    (added : name ∉ changerNames → value.Tame) : (heap.addExport id name value).Tame :=
  { tame with
    exports := forall_mem_modify tame.exports (fun _ bound => bound.insert added) _ }

/-- Functions that are added later are known not to be among those that change lists. -/
theorem newBuiltin {builtin : Builtin} (harmless : builtin.operation.changesList = false) :
    (Value.builtin (heap.newBuiltin builtin).1).Tame ∧ (heap.newBuiltin builtin).2.Tame := by
  have larger : preludeFunctions.length ≤ (heap.builtins.push builtin).size := by
    rw [Array.size_push]
    exact Nat.le_succ_of_le tame.prelude
  refine ⟨?_, { tame with prelude := larger, changers := ?_ }⟩
  · change (preludeFunctions[heap.builtins.size]?.any _) = false
    rw [List.getElem?_eq_none tame.prelude]
    rfl
  · intro id changes
    rcases Nat.lt_or_ge id.index heap.builtins.size with old | new
    · refine tame.changers id ?_
      simpa only [Heap.builtin, Heap.newBuiltin, Array.getD_eq_getD_getElem?,
        Array.getElem?_push_lt old, Array.getElem?_eq_getElem old] using changes
    · -- Beyond the old ones there is only the one that is added.
      have added : ((heap.newBuiltin builtin).2.builtin id).operation.changesList = false := by
        unfold Heap.builtin Heap.newBuiltin
        rw [Array.getD_eq_getD_getElem?, Array.getElem?_push]
        split
        · exact harmless
        · rw [Array.getElem?_eq_none new]
          rfl
      exact absurd changes (Bool.eq_false_iff.mp added)

theorem installAll {builtins : List Builtin} {bound : Bindings Value} (held : bound.Tame)
    (harmless : ∀ builtin ∈ builtins, builtin.operation.changesList = false) :
    (heap.installAll builtins bound).1.Tame ∧ (heap.installAll builtins bound).2.Tame := by
  induction builtins generalizing heap bound with
  | nil => exact ⟨held, tame⟩
  | cons builtin rest ih =>
      obtain ⟨here, harmless⟩ := List.forall_mem_cons.mp harmless
      obtain ⟨made, after⟩ := tame.newBuiltin here
      exact ih after (held.insert fun _ => made) harmless

/-- No module of the language itself exports a function that changes a list. -/
theorem newNative? {name : String} {made : Bindings Value × Heap}
    (found : heap.newNative? name = some made) : made.1.Tame ∧ made.2.Tame := by
  have constants : ∀ entry ∈ mathConstants, entry.2.Tame := by
    simp [mathConstants, Value.Tame]
  unfold Heap.newNative? at found
  split at found
  · cases found
    have bound := Bindings.tame_empty.insertAll fun entry member _ => constants entry member
    exact tame.installAll bound (by decide)
  · cases found

end Tame

end Heap

end Data
end Scripting
