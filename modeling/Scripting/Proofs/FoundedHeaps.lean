import Scripting.Data.Attributes
import Scripting.Data.Prelude
import Scripting.Proofs.BoundedLoops
import Scripting.Proofs.ValueSources

namespace Scripting
namespace Data

/-!
Heaps in which classes go back to earlier ones.

A class is made when its body is done, so its members and the classes that it extends were there
before it.  The initializer of a class may be a class again, but an earlier one.  This holds as
long as no value on the heap stands for a class that is yet to be made.
-/

/-- A value that is no class, or one of the first ones. -/
def Value.Below (count : Nat) : Value → Prop
  | .constructor id => id.index < count
  | _ => True

def AllBelow (count : Nat) (values : List Value) : Prop :=
  ∀ value ∈ values, value.Below count

/-- Arguments, as far as they have values. -/
def GivenBelow (count : Nat) (arguments : List (Option Value)) : Prop :=
  ∀ argument ∈ arguments, ∀ value ∈ argument, value.Below count

def Bindings.Below (count : Nat) (bound : Bindings Value) : Prop :=
  ∀ entry ∈ bound.entries, entry.2.Below count

/-- The values that an operator gives, or the list that is repeated too often. -/
def Product.Below (heap : Heap) (count : Nat) : Product → Prop
  | .value made => made.Below count
  | .list items => AllBelow count items
  | .overgrown overgrowth => overgrowth.Arises heap

section Values

variable {count more : Nat}

theorem Value.Below.mono {value : Value} (below : value.Below count) (grown : count ≤ more) :
    value.Below more := by
  cases value with
  | constructor id => exact Nat.lt_of_lt_of_le below grown
  | _ => trivial

theorem Value.below_of_isPlain {value : Value} (plain : value.IsPlain) : value.Below count := by
  cases value with
  | constructor id => cases plain
  | _ => trivial

theorem Value.below_bindTo {value : Value} (below : value.Below count) (receiver : ObjectId) :
    (bindTo receiver value).Below count := by
  cases value with
  | constructor id => exact below
  | _ => trivial

theorem AllBelow.mono {values : List Value} (below : AllBelow count values) (grown : count ≤ more) :
    AllBelow more values :=
  fun value member => (below value member).mono grown

theorem AllBelow.nil : AllBelow count [] :=
  nofun

theorem AllBelow.cons {value : Value} {values : List Value} (first : value.Below count)
    (rest : AllBelow count values) : AllBelow count (value :: values) :=
  List.forall_mem_cons.mpr ⟨first, rest⟩

theorem AllBelow.append {values others : List Value} (first : AllBelow count values)
    (second : AllBelow count others) : AllBelow count (values ++ others) :=
  List.forall_mem_append.mpr ⟨first, second⟩

theorem AllBelow.subset {values others : List Value} (below : AllBelow count values)
    (included : others ⊆ values) : AllBelow count others :=
  fun value member => below value (included member)

theorem AllBelow.insertIdx {values : List Value} (below : AllBelow count values) (place : Nat)
    {value : Value} (added : value.Below count) : AllBelow count (values.insertIdx place value) := by
  intro other member
  by_cases inside : place ≤ values.length
  · rcases (List.mem_insertIdx inside).mp member with rfl | old
    · exact added
    · exact below other old
  · rw [List.insertIdx_of_length_lt (Nat.lt_of_not_le inside)] at member
    exact below other member

theorem GivenBelow.mono {arguments : List (Option Value)} (below : GivenBelow count arguments)
    (grown : count ≤ more) : GivenBelow more arguments :=
  fun argument member value given => (below argument member value given).mono grown

theorem GivenBelow.tail {argument : Option Value} {arguments : List (Option Value)}
    (below : GivenBelow count (argument :: arguments)) : GivenBelow count arguments :=
  (List.forall_mem_cons.mp below).2

theorem GivenBelow.subset {arguments others : List (Option Value)}
    (below : GivenBelow count arguments) (included : others ⊆ arguments) :
    GivenBelow count others :=
  fun argument member => below argument (included member)

end Values

/-! ## Bindings -/

namespace Bindings

variable {count more : Nat} {bound : Bindings Value}

theorem Below.mono (below : bound.Below count) (grown : count ≤ more) : bound.Below more :=
  fun entry member => (below entry member).mono grown

theorem below_empty : (empty : Bindings Value).Below count :=
  nofun

theorem Below.get? (below : bound.Below count) {name : String} {value : Value}
    (found : bound.get? name = some value) : value.Below count := by
  obtain ⟨before, after, split, -⟩ := List.lookup_eq_some_iff.mp found
  refine below (name, value) ?_
  rw [split]
  exact List.mem_append_right _ List.mem_cons_self

theorem mem_bindEntry {name : String} {value : Value} {entries : List (String × Value)}
    {entry : String × Value} (member : entry ∈ bindEntry name value entries) :
    entry.2 = value ∨ entry ∈ entries := by
  induction entries with
  | nil =>
      rw [List.mem_singleton.mp member]
      exact .inl rfl
  | cons first rest ih =>
      obtain ⟨key, old⟩ := first
      unfold bindEntry at member
      split at member
      · rcases List.mem_cons.mp member with rfl | later
        · exact .inl rfl
        · exact .inr (List.mem_cons_of_mem _ later)
      · rcases List.mem_cons.mp member with rfl | later
        · exact .inr List.mem_cons_self
        · exact (ih later).imp_right (List.mem_cons_of_mem _)

theorem Below.insert (below : bound.Below count) (name : String) {value : Value}
    (added : value.Below count) : (bound.insert name value).Below count := by
  intro entry member
  rcases mem_bindEntry member with same | old
  · rw [same]
    exact added
  · exact below entry old

theorem Below.erase (below : bound.Below count) (name : String) : (bound.erase name).Below count :=
  fun entry member => below entry (List.mem_of_mem_filter member)

theorem Below.insertAll (below : bound.Below count) {entries : List (String × Value)}
    (added : ∀ entry ∈ entries, entry.2.Below count) : (bound.insertAll entries).Below count := by
  induction entries generalizing bound with
  | nil => exact below
  | cons entry rest ih =>
      obtain ⟨first, others⟩ := List.forall_mem_cons.mp added
      exact ih (below.insert entry.1 first) others

theorem Below.bindTo (below : bound.Below count) (receiver : ObjectId) :
    (bound.map (bindTo receiver)).Below count := by
  intro entry member
  obtain ⟨old, listed, rfl⟩ := List.mem_map.mp member
  exact Value.below_bindTo (below old listed) receiver

end Bindings

/-! ## Heaps -/

/-- A function without open-ended loops in its body and its defaults. -/
structure Function.Bounded (function : Function) : Prop where
  body : function.body.Bounded
  optional : ∀ parameter ∈ function.optional, parameter.2.Bounded

/-- A class whose members and ancestors are among the classes before a place. -/
structure Class.Grounded (index : Nat) (definition : Class) : Prop where
  members : definition.members.Below index
  ancestors : ∀ ancestor ∈ definition.ancestors, ancestor.index < index

/-- All values that are kept on a heap stand for none but the first classes. -/
structure Heap.Holds (count : Nat) (heap : Heap) : Prop where
  lists : ∀ items ∈ heap.lists, AllBelow count items
  objects : ∀ object ∈ heap.objects, object.attributes.Below count
  builtins : ∀ builtin ∈ heap.builtins, ∀ parameter ∈ builtin.optional, parameter.2.Below count
  libraries : ∀ library ∈ heap.libraries, library.exports.Below count
  tables : ∀ table ∈ heap.tables, table.Below count
  exports : ∀ exported ∈ heap.exports, exported.Below count

/--
No value stands for a class that is yet to be made, all classes go back to earlier ones, the
functions of the language are the standard ones, and no other function has an open-ended loop.
The first three say how values, classes and functions of the language come about; only the last
asks something of the programs that were run before.
-/
structure Heap.Founded (heap : Heap) : Prop where
  values : heap.Holds heap.classes.size
  classes : ∀ (index : Nat) (definition : Class), heap.classes[index]? = some definition →
    definition.Grounded index
  builtins : ∀ builtin ∈ heap.builtins, builtin ∈ preludeFunctions ++ mathFunctions
  functions : ∀ function ∈ heap.functions, function.Bounded

namespace Heap

variable {count more : Nat} {heap : Heap}

/-! ## Reading -/

namespace Holds

theorem mono (holds : heap.Holds count) (grown : count ≤ more) : heap.Holds more where
  lists items member := (holds.lists items member).mono grown
  objects object member := (holds.objects object member).mono grown
  builtins builtin member parameter listed :=
    (holds.builtins builtin member parameter listed).mono grown
  libraries library member := (holds.libraries library member).mono grown
  tables table member := (holds.tables table member).mono grown
  exports exported member := (holds.exports exported member).mono grown

variable (holds : heap.Holds count)
include holds

theorem list (id : ListId) : AllBelow count (heap.list id) :=
  forall_getD (AllBelow count) holds.lists .nil id.index

theorem object (id : ObjectId) : (heap.object id).attributes.Below count :=
  forall_getD (fun object : Object => object.attributes.Below count) holds.objects
    Bindings.below_empty id.index

theorem builtin (id : BuiltinId) :
    ∀ parameter ∈ (heap.builtin id).optional, parameter.2.Below count :=
  forall_getD (fun builtin : Builtin => ∀ parameter ∈ builtin.optional, parameter.2.Below count)
    holds.builtins (List.forall_mem_nil _) id.index

theorem library (id : ModuleId) : (heap.library id).exports.Below count :=
  forall_getD (fun library : Library => library.exports.Below count) holds.libraries
    Bindings.below_empty id.index

theorem table (id : TableId) : (heap.table id).Below count :=
  forall_getD (Bindings.Below count) holds.tables Bindings.below_empty id.index

theorem exported (id : ExportsId) : (heap.exported id).Below count :=
  forall_getD (Bindings.Below count) holds.exports Bindings.below_empty id.index

theorem lookup? {scope : Scope} {name : String} {value : Value}
    (found : heap.lookup? scope name = some value) : value.Below count := by
  obtain ⟨id, -, here⟩ := List.exists_of_findSome?_eq_some found
  exact (holds.table id).get? here

end Holds

namespace Founded

variable (founded : heap.Founded)
include founded

theorem constructor (id : ClassId) : (heap.constructor id).Grounded id.index := by
  unfold Heap.constructor
  rw [Array.getD_eq_getD_getElem?]
  cases found : heap.classes[id.index]? with
  | none => exact ⟨Bindings.below_empty, List.forall_mem_nil _⟩
  | some definition => exact founded.classes id.index definition found

theorem function (id : FunctionId) : (heap.function id).Bounded := by
  have empty : (default : Function).Bounded :=
    ⟨.node rfl (List.forall_mem_nil _), List.forall_mem_nil _⟩
  exact forall_getD Function.Bounded founded.functions empty id.index

/-- An object starts with what its class and the classes before it define. -/
theorem instanceAttributes {definition : Class} {index : Nat}
    (grounded : definition.Grounded index) :
    (heap.instanceAttributes definition).Below index := by
  have inherited : ∀ (ancestors : List ClassId) (bound : Bindings Value), bound.Below index →
      (∀ ancestor ∈ ancestors, ancestor.index < index) →
        (ancestors.foldl (fun bound ancestor =>
          bound.insertAll (heap.constructor ancestor).members.entries) bound).Below index := by
    intro ancestors
    induction ancestors with
    | nil => exact fun bound below _ => below
    | cons ancestor rest ih =>
        intro bound below earlier
        obtain ⟨first, others⟩ := List.forall_mem_cons.mp earlier
        have members := (founded.constructor ancestor).members.mono (Nat.le_of_lt first)
        exact ih _ (below.insertAll members) others
  exact (inherited _ _ Bindings.below_empty grounded.ancestors).insertAll grounded.members

theorem attributes {value : Value} (below : value.Below heap.classes.size) :
    (heap.attributes value).Below heap.classes.size := by
  cases value with
  | object id => exact (founded.values.object id).bindTo id
  | library id => exact founded.values.library id
  | constructor id =>
      exact (founded.instanceAttributes (founded.constructor id)).mono (Nat.le_of_lt below)
  | _ => exact Bindings.below_empty

/-- A class of values that are there, which extends a class that is there. -/
theorem extendClass (name : String) {members : Bindings Value}
    (below : members.Below heap.classes.size) {parent : Option ClassId}
    (there : ∀ id ∈ parent, id.index < heap.classes.size) :
    (heap.extendClass name members parent).Grounded heap.classes.size := by
  refine ⟨below, ?_⟩
  cases parent with
  | none => exact List.forall_mem_nil _
  | some id =>
      have earlier : id.index < heap.classes.size := there id rfl
      refine List.forall_mem_append.mpr ⟨fun ancestor member => ?_, ?_⟩
      · exact Nat.lt_trans ((founded.constructor id).ancestors ancestor member) earlier
      · exact List.forall_mem_singleton.mpr earlier

end Founded

/-! ## Creation and change -/

/-- No default of a function of the language is a class. -/
theorem below_of_standard : ∀ builtin ∈ preludeFunctions ++ mathFunctions,
    ∀ parameter ∈ builtin.optional, parameter.2.Below 0 := by
  simp [preludeFunctions, mathFunctions, Value.Below]

/-- A heap with the same classes and functions that holds no other values. -/
theorem Founded.of_values {other : Heap} (founded : heap.Founded)
    (classes : other.classes = heap.classes) (builtins : other.builtins = heap.builtins)
    (functions : other.functions = heap.functions) (values : other.Holds heap.classes.size) :
    other.Founded where
  values := by
    rw [classes]
    exact values
  classes := by
    rw [classes]
    exact founded.classes
  builtins := by
    rw [builtins]
    exact founded.builtins
  functions := by
    rw [functions]
    exact founded.functions

section Change

variable (founded : heap.Founded)
include founded

theorem founded_newList {items : List Value} (below : AllBelow heap.classes.size items) :
    (heap.newList items).2.Founded :=
  founded.of_values rfl rfl rfl
    { founded.values with lists := forall_mem_push founded.values.lists below }

theorem founded_newObject {object : Object} (below : object.attributes.Below heap.classes.size) :
    (heap.newObject object).2.Founded :=
  founded.of_values rfl rfl rfl
    { founded.values with objects := forall_mem_push founded.values.objects below }

theorem founded_newFunction {function : Function} (bounded : function.Bounded) :
    (heap.newFunction function).2.Founded :=
  { values := { founded.values with }
    classes := founded.classes
    builtins := founded.builtins
    functions := forall_mem_push founded.functions bounded }

theorem founded_newBuiltin {builtin : Builtin}
    (listed : builtin ∈ preludeFunctions ++ mathFunctions)
    (below : ∀ parameter ∈ builtin.optional, parameter.2.Below heap.classes.size) :
    (heap.newBuiltin builtin).2.Founded :=
  { values := { founded.values with builtins := forall_mem_push founded.values.builtins below }
    classes := founded.classes
    builtins := forall_mem_push founded.builtins listed
    functions := founded.functions }

theorem founded_newLibrary {library : Library} (below : library.exports.Below heap.classes.size) :
    (heap.newLibrary library).2.Founded :=
  founded.of_values rfl rfl rfl
    { founded.values with libraries := forall_mem_push founded.values.libraries below }

theorem founded_newScope {bindings : Bindings Value} (below : bindings.Below heap.classes.size)
    (enclosing : List TableId) : (heap.newScope bindings enclosing).2.Founded :=
  founded.of_values rfl rfl rfl
    { founded.values with tables := forall_mem_push founded.values.tables below }

theorem founded_newExports : heap.newExports.2.Founded :=
  founded.of_values rfl rfl rfl
    { founded.values with exports := forall_mem_push founded.values.exports Bindings.below_empty }

theorem founded_setList (id : ListId) {items : List Value}
    (below : AllBelow heap.classes.size items) : (heap.setList id items).Founded :=
  founded.of_values rfl rfl rfl
    { founded.values with lists := forall_mem_setIfInBounds founded.values.lists below _ }

theorem founded_setAttribute (id : ObjectId) (name : String) {value : Value}
    (below : value.Below heap.classes.size) : (heap.setAttribute id name value).Founded :=
  founded.of_values rfl rfl rfl
    { founded.values with
      objects := forall_mem_setIfInBounds founded.values.objects
        ((founded.values.object id).insert name below) _ }

theorem founded_bind (id : TableId) (name : String) {value : Value}
    (below : value.Below heap.classes.size) : (heap.bind id name value).Founded :=
  founded.of_values rfl rfl rfl
    { founded.values with
      tables := forall_mem_modify founded.values.tables
        (fun _ bound => bound.insert name below) _ }

theorem founded_unbind (id : TableId) (name : String) : (heap.unbind id name).Founded :=
  founded.of_values rfl rfl rfl
    { founded.values with
      tables := forall_mem_modify founded.values.tables (fun _ bound => bound.erase name) _ }

theorem founded_addExport (id : ExportsId) (name : String) {value : Value}
    (below : value.Below heap.classes.size) : (heap.addExport id name value).Founded :=
  founded.of_values rfl rfl rfl
    { founded.values with
      exports := forall_mem_modify founded.values.exports
        (fun _ bound => bound.insert name below) _ }

/-- The new class is the last one, and what it goes back to comes before it. -/
theorem founded_newClass {definition : Class} (grounded : definition.Grounded heap.classes.size) :
    (heap.newClass definition).2.Founded := by
  have size : (heap.newClass definition).2.classes.size = heap.classes.size + 1 :=
    Array.size_push definition
  refine ⟨?_, ?_, founded.builtins, founded.functions⟩
  · rw [size]
    exact { founded.values.mono (Nat.le_succ heap.classes.size) with }
  · intro index other found
    change (heap.classes.push definition)[index]? = some other at found
    rw [Array.getElem?_push] at found
    split at found
    · rename_i last
      cases found
      rw [last]
      exact grounded
    · exact founded.classes index other found

theorem founded_installAll {builtins : List Builtin} {bound : Bindings Value}
    (below : bound.Below heap.classes.size)
    (listed : ∀ builtin ∈ builtins, builtin ∈ preludeFunctions ++ mathFunctions) :
    (heap.installAll builtins bound).2.Founded ∧
      (heap.installAll builtins bound).2.classes = heap.classes ∧
      (heap.installAll builtins bound).1.Below heap.classes.size := by
  induction builtins generalizing heap bound with
  | nil => exact ⟨founded, rfl, below⟩
  | cons builtin rest ih =>
      obtain ⟨first, others⟩ := List.forall_mem_cons.mp listed
      have added : (heap.newBuiltin builtin).2.Founded :=
        founded_newBuiltin founded first fun parameter declared =>
          (below_of_standard builtin first parameter declared).mono (Nat.zero_le _)
      exact ih added (below.insert builtin.name trivial) others

end Change

end Heap

/-! ## Operations -/

namespace Yields

variable {count : Nat} {heap : Heap} {left right : Value}

theorem binary (holds : heap.Holds count) (op : Program.BinaryOp) (below : right.Below count) :
    Yields (Product.Below heap count) (heap.binary op left right) := by
  refine (binary_all holds.list op below).mono fun product all => ?_
  cases product with
  | value made => exact Value.below_of_isPlain all
  | list items => exact all
  | overgrown overgrowth => exact all

theorem unary (op : Program.UnaryOp) (operand : Value) :
    Yields (Value.Below count) (heap.unary op operand) :=
  unary_all (fun _ => Value.below_of_isPlain) op operand

theorem items (holds : heap.Holds count) (value : Value) :
    Yields (AllBelow count) (heap.items value) :=
  items_all (fun _ => Value.below_of_isPlain) holds.list value

theorem toItems (holds : heap.Holds count) (value : Value) :
    Yields (AllBelow count) (heap.toItems value) :=
  toItems_all (fun _ => Value.below_of_isPlain) holds.list value

theorem element (holds : heap.Holds count) (value index : Value) :
    Yields (Value.Below count) (heap.element value index) :=
  element_all (fun _ => Value.below_of_isPlain) holds.list value index

theorem toInt (value : Value) : Yields (Value.Below count) (heap.toInt value) :=
  toInt_all (fun _ => Value.below_of_isPlain) value

theorem toFloat (value : Value) : Yields (Value.Below count) (heap.toFloat value) :=
  toFloat_all (fun _ => Value.below_of_isPlain) value

end Yields

/-! ## Arguments -/

/-- The values that a function of the language is run with. -/
def Arguments.Below (count : Nat) (arguments : Arguments) : Prop :=
  AllBelow count arguments.slots ∧ AllBelow count arguments.extras

theorem Builtin.yields_bind {count : Nat} {builtin : Builtin}
    (defaults : ∀ parameter ∈ builtin.optional, parameter.2.Below count)
    {arguments : List (Option Value)} (below : GivenBelow count arguments) :
    Yields (Arguments.Below count) (builtin.bind arguments) :=
  Builtin.bind_all (fun _ => Value.below_of_isPlain) defaults below

end Data
end Scripting
