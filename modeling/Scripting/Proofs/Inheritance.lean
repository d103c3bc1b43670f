import Mathlib.Data.List.Basic
import Mathlib.Data.List.Induction
import Scripting.Data.Attributes
import Scripting.Proofs.Placement
import Scripting.Proofs.TableHistories

namespace Scripting
namespace Data

/-!
Inheritance.

A class keeps the classes that it extends, the root first, and its instances start with what
all of them define.  The definitions are gone through from the root on, as one history of
bindings: so the most derived definition of a name counts, while the name keeps the place where
it was met first.  Objects take these attributes over and go their own way from then on.
-/

/-! ## Chains of classes -/

/-- Classes of which each one extends the one before, from the root on. -/
inductive Heap.Lineage (heap : Heap) : List ClassId → Prop
  | root {id : ClassId} (name : String) (members : Bindings Value)
      (present : id.index < heap.classes.size)
      (defined : heap.constructor id = heap.extendClass name members none) : Lineage heap [id]
  | extend {above : List ClassId} {parent id : ClassId} (name : String)
      (members : Bindings Value) (lineage : Lineage heap (above ++ [parent]))
      (present : id.index < heap.classes.size)
      (defined : heap.constructor id = heap.extendClass name members (some parent)) :
      Lineage heap ((above ++ [parent]) ++ [id])

/-- What the instances of a class at the end of a chain start with. -/
structure Heap.Inherits (heap : Heap) (above : List ClassId) (id : ClassId) : Prop where
  ancestors : (heap.constructor id).ancestors = above
  /-- The last class that defines a name decides what it stands for. -/
  value : ∀ name, (heap.instanceAttributes (heap.constructor id)).get? name =
    (above ++ [id]).reverse.findSome? fun ancestor =>
      (heap.constructor ancestor).members.get? name
  defined : ∀ name, name ∈ (heap.instanceAttributes (heap.constructor id)).names ↔
    ∃ ancestor ∈ above ++ [id], name ∈ (heap.constructor ancestor).members.names
  once : (heap.instanceAttributes (heap.constructor id)).names.Nodup
  /-- The names stand in the order in which they are met first. -/
  ordered : (heap.instanceAttributes (heap.constructor id)).names.Pairwise fun first second =>
    let met := (above ++ [id]).flatMap fun ancestor =>
      (heap.constructor ancestor).members.names
    met.idxOf first < met.idxOf second

variable {heap : Heap} {above chain : List ClassId} {id : ClassId}

theorem Heap.constructor_newClass {definition : Class} (present : id.index < heap.classes.size) :
    (heap.newClass definition).2.constructor id = heap.constructor id := by
  simp only [Heap.constructor, Heap.newClass, Array.getD_eq_getD_getElem?,
    Array.getElem?_push_lt present]
  rw [Array.getElem?_eq_getElem present]

theorem Heap.constructor_newest (definition : Class) :
    (heap.newClass definition).2.constructor (heap.newClass definition).1 = definition := by
  simp [Heap.constructor, Heap.newClass]

theorem Heap.extendClass_newClass {definition : Class} (present : id.index < heap.classes.size)
    (name : String) (members : Bindings Value) :
    (heap.newClass definition).2.extendClass name members (some id) =
      heap.extendClass name members (some id) := by
  simp only [Heap.extendClass, constructor_newClass present]

namespace Heap.Lineage

theorem present (lineage : heap.Lineage chain) : ∀ id ∈ chain, id.index < heap.classes.size := by
  induction lineage with
  | root _ _ present => exact List.forall_mem_singleton.mpr present
  | extend _ _ _ present _ ih =>
      exact List.forall_mem_append.mpr ⟨ih, List.forall_mem_singleton.mpr present⟩

theorem present_last (lineage : heap.Lineage (above ++ [id])) : id.index < heap.classes.size :=
  lineage.present id (List.mem_append_right _ (List.mem_singleton_self _))

/-- A class keeps the chain that leads to it. -/
theorem ancestors (lineage : heap.Lineage (above ++ [id])) :
    (heap.constructor id).ancestors = above := by
  generalize whole : above ++ [id] = chain at lineage
  induction lineage generalizing above id with
  | root name members _ defined =>
      rcases List.append_inj' (whole.trans (List.nil_append _).symm) rfl with ⟨rfl, same⟩
      cases same
      rw [defined]
      rfl
  | extend name members lineage _ defined ih =>
      rcases List.append_inj' whole rfl with ⟨rfl, same⟩
      cases same
      rw [defined]
      exact congrArg (· ++ _) (ih rfl)

/-- A chain stays what it is when further classes are defined. -/
theorem newClass (lineage : heap.Lineage chain) (definition : Class) :
    (heap.newClass definition).2.Lineage chain := by
  have grown {id : ClassId} (present : id.index < heap.classes.size) :
      id.index < (heap.newClass definition).2.classes.size := by
    rw [Heap.newClass, Array.size_push]
    exact Nat.lt_succ_of_lt present
  induction lineage with
  | root name members present defined =>
      exact .root name members (grown present) ((constructor_newClass present).trans defined)
  | extend name members lineage present defined ih =>
      refine .extend name members ih (grown present) ?_
      rw [constructor_newClass present, extendClass_newClass lineage.present_last]
      exact defined

/-- Defining a class that extends the last one of a chain makes the chain longer. -/
theorem extended (lineage : heap.Lineage (above ++ [id])) (name : String)
    (members : Bindings Value) :
    let made := heap.newClass (heap.extendClass name members (some id))
    made.2.Lineage ((above ++ [id]) ++ [made.1]) := by
  intro made
  refine .extend name members (lineage.newClass _) ?_ ?_
  · exact Array.size_push _ ▸ Nat.lt_succ_self _
  · exact (constructor_newest _).trans (extendClass_newClass lineage.present_last name members).symm

/-- A class without a parent begins a chain. -/
theorem begun (heap : Heap) (name : String) (members : Bindings Value) :
    let made := heap.newClass (heap.extendClass name members none)
    made.2.Lineage [made.1] := by
  intro made
  exact .root name members (Array.size_push _ ▸ Nat.lt_succ_self _) (constructor_newest _)

end Heap.Lineage

/-! ## What instances start with -/

namespace Bindings

theorem insertAll_eq_foldl (bindings more : Bindings Value) :
    bindings.insertAll more.entries = more.initially.foldl Bindings.apply bindings := by
  rw [initially, List.foldl_map]
  rfl

/-- Where bindings are added to others, they count. -/
theorem get?_insertAll (bindings more : Bindings Value) (name : String) :
    (bindings.insertAll more.entries).get? name = (more.get? name).or (bindings.get? name) := by
  rcases more with ⟨entries, distinct⟩
  change (bindings.insertAll entries).get? name = (entries.lookup name).or (bindings.get? name)
  induction entries generalizing bindings with
  | nil => rfl
  | cons entry rest ih =>
      obtain ⟨key, value⟩ := entry
      rcases List.nodup_cons.mp distinct with ⟨absent, later⟩
      have step : bindings.insertAll ((key, value) :: rest) =
          (bindings.insert key value).insertAll rest := rfl
      rw [step, ih _ later, get?_insert, List.lookup_cons]
      by_cases same : name = key
      · subst same
        have none : rest.lookup name = none := by
          rw [List.lookup_eq_none_iff]
          intro entry member
          have other : name ≠ entry.1 := fun same =>
            absent (List.mem_map.mpr ⟨entry, member, same.symm⟩)
          simpa using other
        simp [none]
      · have passed : (name == key) = false := by simp [same]
        simp [same, passed]

end Bindings

/-- The attributes that classes define, one class after the other. -/
def Heap.definitions (heap : Heap) (chain : List ClassId) : List Change :=
  chain.flatMap fun id => (heap.constructor id).members.initially

theorem instanceAttributes_eq (lineage : heap.Lineage (above ++ [id])) :
    heap.instanceAttributes (heap.constructor id) =
      (heap.definitions (above ++ [id])).foldl Bindings.apply .empty := by
  rw [Heap.instanceAttributes, lineage.ancestors, Heap.definitions, List.flatMap_append,
    List.foldl_append, List.flatMap_singleton, ← Bindings.insertAll_eq_foldl, List.foldl_flatMap]
  simp only [Bindings.insertAll_eq_foldl]

theorem names_definitions (heap : Heap) (chain : List ClassId) :
    (heap.definitions chain).map Change.name =
      chain.flatMap fun id => (heap.constructor id).members.names := by
  rw [Heap.definitions, List.map_flatMap]
  simp only [Bindings.initially, List.map_map]
  rfl

theorem sets_of_mem_definitions {change : Change} (member : change ∈ heap.definitions chain) :
    ∃ value, change = .set change.name value := by
  rcases List.mem_flatMap.mp member with ⟨id, -, defines⟩
  rcases List.mem_map.mp defines with ⟨entry, -, rfl⟩
  exact ⟨entry.2, rfl⟩

/-- Where nothing is ever removed, a name is born when it is met first. -/
theorem born_of_sets {history : List Change} {name : String}
    (sets : ∀ change ∈ history, ∃ value, change = .set change.name value)
    (met : name ∈ history.map Change.name) :
    Born history name ((history.map Change.name).idxOf name) := by
  have inside := List.idxOf_lt_length_of_mem met
  have named (place : Nat) (value : Value) (found : history[place]? = some (.set name value)) :
      (history.map Change.name)[place]? = some name := by
    rw [List.getElem?_map, found]
    rfl
  refine ⟨⟨?_, fun later _ removed => ?_⟩, fun earlier less bound => ?_⟩
  · have first := List.getElem?_idxOf met
    rw [List.getElem?_map, Option.map_eq_some_iff] at first
    rcases first with ⟨change, found, rfl⟩
    rcases sets change (List.mem_of_getElem? found) with ⟨value, same⟩
    exact ⟨value, found.trans (congrArg some same)⟩
  · rcases sets _ (List.mem_of_getElem? removed) with ⟨value, same⟩
    cases same
  · rcases bound.sets with ⟨value, found⟩
    rcases List.getElem?_eq_some_iff.mp (named earlier value found) with ⟨within, same⟩
    have other := List.not_of_lt_findIdx less
    rw [same, beq_self_eq_true] at other
    cases other

/-- Of the classes that define a name, the last one counts. -/
theorem get?_definitions (heap : Heap) (chain : List ClassId) (name : String) :
    ((heap.definitions chain).foldl Bindings.apply .empty).get? name =
      chain.reverse.findSome? fun id => (heap.constructor id).members.get? name := by
  induction chain using List.reverseRecOn with
  | nil => rfl
  | append_singleton chain id ih =>
      rw [Heap.definitions, List.flatMap_append, List.foldl_append, List.flatMap_singleton,
        ← Bindings.insertAll_eq_foldl, Bindings.get?_insertAll, List.reverse_append,
        List.reverse_singleton, List.singleton_append, List.findSome?_cons]
      cases (heap.constructor id).members.get? name with
      | some value => rfl
      | none => exact ih

/-- The instances of a class start with what the chain that leads to it defines. -/
theorem Heap.Lineage.inherits (lineage : heap.Lineage (above ++ [id])) :
    heap.Inherits above id := by
  have built := instanceAttributes_eq lineage
  have records := Bindings.Records.empty.foldl (heap.definitions (above ++ [id]))
  rw [← built, List.nil_append] at records
  have value (name : String) : (heap.instanceAttributes (heap.constructor id)).get? name =
      (above ++ [id]).reverse.findSome? fun ancestor =>
        (heap.constructor ancestor).members.get? name := by
    rw [built, get?_definitions]
  refine ⟨lineage.ancestors, value, fun name => ?_, Bindings.distinct _, ?_⟩
  · rw [Bindings.mem_names_iff, value, List.findSome?_isSome_iff]
    simp only [List.mem_reverse, Bindings.mem_names_iff]
  · refine records.ordered.imp_of_mem fun {first second} one two less => ?_
    have met {name : String} (live : name ∈ (heap.instanceAttributes (heap.constructor id)).names) :
        name ∈ (heap.definitions (above ++ [id])).map Change.name := by
      rcases (records.live name).mp live with ⟨place, bound⟩
      rcases bound.sets with ⟨value, found⟩
      exact List.mem_map.mpr ⟨_, List.mem_of_getElem? found, rfl⟩
    have sets := fun change => @sets_of_mem_definitions heap (above ++ [id]) change
    have ordered := less _ _ (born_of_sets sets (met one)) (born_of_sets sets (met two))
    rwa [names_definitions] at ordered

/-! ## Objects -/

/-- An attribute of one of the objects that is set. -/
structure Setting where
  object : ObjectId
  name : String
  value : Value

/-- The change that this is for the attributes of the object. -/
def Setting.change (setting : Setting) : Change :=
  .set setting.name setting.value

namespace Heap

def applySetting (heap : Heap) (setting : Setting) : Heap :=
  heap.setAttribute setting.object setting.name setting.value

/-- What was done to the attributes of an object: those that it had at first, and what was set. -/
def settingsOf (heap : Heap) (settings : List Setting) (id : ObjectId) : List Change :=
  (heap.object id).attributes.initially ++ (settings.filter (·.object = id)).map Setting.change

/-- An attribute of one object is set, and the other objects stay as they are. -/
theorem object_applySetting {heap : Heap} {setting : Setting} (id : ObjectId)
    (present : setting.object.index < heap.objects.size) :
    (heap.applySetting setting).object id =
      if setting.object = id then
        ⟨(heap.object id).constructor, (heap.object id).attributes.apply setting.change⟩
      else heap.object id := by
  simp only [object, applySetting, setAttribute, Array.getD_eq_getD_getElem?,
    Array.getElem?_setIfInBounds]
  by_cases same : setting.object = id
  · subst same
    simp only [if_true, present]
    rfl
  · have different : setting.object.index ≠ id.index := by
      rintro equal
      rcases setting with ⟨⟨index⟩, name, value⟩
      cases id
      exact same (congrArg ObjectId.mk equal)
    rw [if_neg same, if_neg different]

theorem size_applySetting (heap : Heap) (setting : Setting) :
    (heap.applySetting setting).objects.size = heap.objects.size :=
  Array.size_setIfInBounds

theorem classes_foldl (heap : Heap) (settings : List Setting) :
    (settings.foldl applySetting heap).classes = heap.classes := by
  induction settings generalizing heap with
  | nil => rfl
  | cons setting settings ih => exact ih (heap.applySetting setting)

/-- An object keeps its class and goes through what was set for it alone. -/
theorem object_foldl {heap : Heap} {settings : List Setting}
    (present : ∀ setting ∈ settings, setting.object.index < heap.objects.size) (id : ObjectId) :
    (settings.foldl applySetting heap).object id =
      ⟨(heap.object id).constructor,
        ((settings.filter (·.object = id)).map Setting.change).foldl Bindings.apply
          (heap.object id).attributes⟩ := by
  induction settings generalizing heap with
  | nil => rfl
  | cons setting settings ih =>
      rcases List.forall_mem_cons.mp present with ⟨here, later⟩
      rw [List.foldl_cons, ih (fun other member =>
        size_applySetting heap setting ▸ later other member), object_applySetting id here]
      by_cases same : setting.object = id <;> simp [same]

/-- What is read of an object: a function comes bound to it, anything else as it was stored. -/
structure Reads (heap : Heap) (id : ObjectId) (name : String) (stored : Option Value) : Prop where
  chain : (heap.attributes (.object id)).get? name = heap.attribute? id name
  bound : ∀ function, stored = some (.function function) →
    heap.attribute? id name = some (.method function id)
  unchanged : (∀ function, stored ≠ some (.function function)) →
    heap.attribute? id name = stored

theorem reads (heap : Heap) (id : ObjectId) (name : String) :
    heap.Reads id name ((heap.object id).attributes.get? name) where
  chain := Bindings.get?_map _ _ _
  bound function stored := congrArg (Option.map (bindTo id)) stored
  unchanged other := by
    rw [attribute?]
    cases stored : (heap.object id).attributes.get? name with
    | none => rfl
    | some value =>
        cases value with
        | function function => exact absurd stored (other function)
        | _ => rfl

end Heap

/--
Classes are defined in chains.  The instances of a class start with what the classes of its
chain define, the most derived definition of each name in the place where the name was met
first.  However often attributes of objects are set, every object tells its own history and
keeps its class, and what is read of it is what was stored, with functions bound to it.
-/
theorem most_derived_definitions (heap : Heap) :
    (∀ name members,
      let made := heap.newClass (heap.extendClass name members none)
      made.2.Lineage [made.1]) ∧
    (∀ above id, heap.Lineage (above ++ [id]) →
      heap.Inherits above id ∧
      ∀ name members,
        let made := heap.newClass (heap.extendClass name members (some id))
        made.2.Lineage ((above ++ [id]) ++ [made.1])) ∧
    ∀ settings : List Setting,
      (∀ setting ∈ settings, setting.object.index < heap.objects.size) →
      let after := settings.foldl Heap.applySetting heap
      after.classes = heap.classes ∧
      ∀ id, (after.object id).constructor = (heap.object id).constructor ∧
        (after.object id).attributes.Records (heap.settingsOf settings id) ∧
        ((∀ setting ∈ settings, setting.object ≠ id) → after.object id = heap.object id) ∧
        ∀ name, after.Reads id name (lastSet? (heap.settingsOf settings id) name) := by
  refine ⟨Heap.Lineage.begun heap, fun above id lineage => ⟨lineage.inherits, lineage.extended⟩, ?_⟩
  intro settings present after
  have object (id : ObjectId) := Heap.object_foldl present id
  refine ⟨heap.classes_foldl settings, fun id => ?_⟩
  have records : (after.object id).attributes.Records (heap.settingsOf settings id) := by
    rw [object id]
    exact Bindings.records_foldl (heap.object id).attributes _
  refine ⟨by rw [object id], records, fun untouched => ?_, fun name => ?_⟩
  · rw [object id, List.filter_eq_nil_iff.mpr fun setting member => by
      simpa using untouched setting member]
    rfl
  · rw [← records.value]
    exact after.reads id name

/-- A class, and one that extends it: it adds a member, and replaces one of the first. -/
def family : Heap :=
  let base := Heap.newClass {} (Heap.extendClass {} "Base"
    (.ofList [("size", .int 1), ("grow", .function ⟨0⟩)]) none)
  (base.2.newClass (base.2.extendClass "Heir"
    (.ofList [("name", .int 2), ("size", .int 3)]) (some base.1))).2

/-- Two instances of the derived class. -/
def twins : Heap :=
  let fresh := ⟨⟨1⟩, family.instanceAttributes (family.constructor ⟨1⟩)⟩
  { family with objects := #[fresh, fresh] }

theorem twins_part_ways :
    twins.Lineage ([⟨0⟩] ++ [⟨1⟩]) ∧ twins.Inherits [⟨0⟩] ⟨1⟩ ∧
      (twins.object ⟨0⟩).attributes.names = ["size", "grow", "name"] ∧
      (twins.object ⟨0⟩).attributes.get? "size" = some (.int 3) ∧
      let after := twins.applySetting ⟨⟨0⟩, "size", .int 4⟩
      after.attribute? ⟨0⟩ "grow" = some (.method ⟨0⟩ ⟨0⟩) ∧
      after.attribute? ⟨0⟩ "size" = some (.int 4) ∧
      after.object ⟨1⟩ = twins.object ⟨1⟩ := by
  have root : twins.Lineage ([] ++ [⟨0⟩]) :=
    .root "Base" (.ofList [("size", .int 1), ("grow", .function ⟨0⟩)]) (by decide) rfl
  have chain : twins.Lineage ([⟨0⟩] ++ [⟨1⟩]) :=
    .extend "Heir" (.ofList [("name", .int 2), ("size", .int 3)]) root (by decide) rfl
  rcases most_derived_definitions twins with ⟨-, inherits, objects⟩
  have present : ∀ setting ∈ [(⟨⟨0⟩, "size", .int 4⟩ : Setting)],
      setting.object.index < twins.objects.size := by
    decide
  rcases objects _ present with ⟨-, own⟩
  refine ⟨chain, (inherits _ _ chain).1, rfl, rfl, ?_, ?_, (own ⟨1⟩).2.2.1 (by decide)⟩
  · exact ((own ⟨0⟩).2.2.2 "grow").bound ⟨0⟩ rfl
  · exact ((own ⟨0⟩).2.2.2 "size").unchanged fun function same => by cases same

end Data
end Scripting
