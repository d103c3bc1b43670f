import Scripting.Evaluation.Basic
import Scripting.Proofs.Elementary

namespace Scripting
namespace Data

/-!
What a table holds, told from what was done to it.

A history lists the changes of a table from the first one on.  It decides what the names are
bound to, by the change that names each of them last, and in which order they stand, by the
change since which each of them has been bound without a break.  Tables are only ever changed
one at a time, so the history of each of them can be told apart from those of the others.
-/

/-- What can be done to a table. -/
inductive Change where
  | set (name : String) (value : Value)
  | remove (name : String)

namespace Change

/-- The name that a change is about. -/
def name : Change → String
  | set name _ => name
  | remove name => name

/-- The value that the name is bound to afterwards. -/
def value? : Change → Option Value
  | set _ value => some value
  | remove _ => none

end Change

/-! ## Histories -/

/-- The value that a name was last bound to, unless it was removed after that. -/
def lastSet? (history : List Change) (name : String) : Option Value :=
  (history.reverse.find? fun change => change.name = name).bind Change.value?

/-- The change at this place binds the name, and no later one removes it. -/
structure Bound (history : List Change) (name : String) (place : Nat) : Prop where
  sets : ∃ value, history[place]? = some (.set name value)
  stays : ∀ later, place < later → history[later]? ≠ some (.remove name)

/-- The change at this place is the first to bind the name since it was last removed. -/
structure Born (history : List Change) (name : String) (place : Nat) : Prop where
  bound : Bound history name place
  first : ∀ earlier < place, ¬ Bound history name earlier

variable {history : List Change} {name other : String} {value : Value} {place : Nat}

theorem lastSet?_concat (history : List Change) (change : Change) (name : String) :
    lastSet? (history ++ [change]) name =
      if change.name = name then change.value? else lastSet? history name := by
  unfold lastSet?
  rw [List.reverse_append, List.reverse_singleton, List.singleton_append, List.find?_cons]
  by_cases same : change.name = name <;> simp [same]

namespace Bound

theorem lt_length (bound : Bound history name place) : place < history.length :=
  (List.getElem?_eq_some_iff.mp bound.sets.choose_spec).1

/-- What is bound was born. -/
theorem exists_born (bound : Bound history name place) : ∃ birth, Born history name birth := by
  induction place using Nat.strongRecOn with
  | ind place ih =>
      by_cases before : ∃ earlier < place, Bound history name earlier
      · rcases before with ⟨earlier, less, earlierBound⟩
        exact ih earlier less earlierBound
      · exact ⟨place, bound, fun earlier less former => before ⟨earlier, less, former⟩⟩

/-- The last change unbinds a name that it removes, and binds one that it sets. -/
theorem concat_iff {change : Change} : Bound (history ++ [change]) name place ↔
    (change ≠ .remove name ∧ Bound history name place) ∨
      (place = history.length ∧ ∃ value, change = .set name value) := by
  have older {index : Nat} (inside : index < history.length) :
      (history ++ [change])[index]? = history[index]? := List.getElem?_append_left inside
  have newest : (history ++ [change])[history.length]? = some change :=
    List.getElem?_concat_length
  have beyond {index : Nat} {found : Change} (outside : history.length < index) :
      (history ++ [change])[index]? ≠ some found := by
    rw [List.getElem?_eq_none (by rw [List.length_append]; exact outside)]
    exact fun same => by cases same
  constructor
  · rintro ⟨⟨value, sets⟩, stays⟩
    rcases Nat.lt_trichotomy place history.length with inside | rfl | outside
    · refine .inl ⟨fun removes => stays _ inside (removes ▸ newest), ⟨value, ?_⟩, ?_⟩
      · exact (older inside).symm.trans sets
      · intro later behind removed
        have within := (List.getElem?_eq_some_iff.mp removed).1
        exact stays later behind ((older within).trans removed)
    · exact .inr ⟨rfl, value, Option.some.inj (newest.symm.trans sets)⟩
    · exact absurd sets (beyond outside)
  · rintro (⟨keeps, bound⟩ | ⟨rfl, value, rfl⟩)
    · rcases bound.sets with ⟨value, sets⟩
      refine ⟨⟨value, (older bound.lt_length).trans sets⟩, fun later behind removed => ?_⟩
      rcases Nat.lt_trichotomy later history.length with inside | rfl | outside
      · exact bound.stays later behind ((older inside).symm.trans removed)
      · exact keeps (Option.some.inj (newest.symm.trans removed))
      · exact beyond outside removed
    · exact ⟨⟨value, newest⟩, fun later behind => beyond behind⟩

end Bound

namespace Born

theorem unique {birth : Nat} (born : Born history name place) (again : Born history name birth) :
    place = birth := by
  rcases Nat.lt_trichotomy place birth with less | same | greater
  · exact absurd born.bound (again.first place less)
  · exact same
  · exact absurd again.bound (born.first birth greater)

/-- A change that does not remove a bound name leaves its birth as it was. -/
theorem concat {change : Change} (keeps : change ≠ .remove name)
    (born : Born history name place) : Born (history ++ [change]) name place := by
  refine ⟨Bound.concat_iff.mpr (.inl ⟨keeps, born.bound⟩), fun earlier less bound => ?_⟩
  rcases Bound.concat_iff.mp bound with ⟨-, former⟩ | ⟨rfl, -⟩
  · exact born.first earlier less former
  · exact absurd born.bound.lt_length (Nat.lt_asymm less)

/-- A name that is not bound yet is born when it is set. -/
theorem newest (unbound : ∀ place, ¬ Bound history name place) (value : Value) :
    Born (history ++ [.set name value]) name history.length := by
  refine ⟨Bound.concat_iff.mpr (.inr ⟨rfl, value, rfl⟩), fun earlier less bound => ?_⟩
  rcases Bound.concat_iff.mp bound with ⟨-, former⟩ | ⟨rfl, -⟩
  · exact unbound earlier former
  · exact Nat.lt_irrefl _ less

end Born

/-! ## Bindings and their history -/

namespace Bindings

/-- What a change makes of bindings. -/
def apply (bindings : Bindings Value) : Change → Bindings Value
  | .set name value => bindings.insert name value
  | .remove name => bindings.erase name

theorem mem_names_iff {α : Type} {bindings : Bindings α} {name : String} :
    name ∈ bindings.names ↔ (bindings.get? name).isSome := by
  simp only [names, get?, List.mem_map, List.lookup_isSome_iff, beq_iff_eq]
  exact exists_congr fun entry => and_congr_right fun _ => eq_comm

/-- What bindings hold is told by a history. -/
structure Records (bindings : Bindings Value) (history : List Change) : Prop where
  value : ∀ name, bindings.get? name = lastSet? history name
  live : ∀ name, name ∈ bindings.names ↔ ∃ place, Bound history name place
  ordered : bindings.names.Pairwise fun first second =>
    ∀ earlier later, Born history first earlier → Born history second later → earlier < later

namespace Records

variable {bindings : Bindings Value}

theorem empty : (Bindings.empty : Bindings Value).Records [] where
  value _ := rfl
  live _ := ⟨nofun, fun ⟨_, bound⟩ => absurd bound.lt_length (Nat.not_lt_zero _)⟩
  ordered := List.Pairwise.nil

/-- The order of names that stay bound does not change. -/
theorem ordered_concat (records : bindings.Records history) {change : Change}
    {names : List String} (kept : names.Sublist bindings.names)
    (keeps : ∀ name ∈ names, change ≠ .remove name) :
    names.Pairwise fun first second => ∀ earlier later,
      Born (history ++ [change]) first earlier → Born (history ++ [change]) second later →
        earlier < later := by
  have still {name : String} {place : Nat} (member : name ∈ names)
      (born : Born (history ++ [change]) name place) : Born history name place := by
    rcases (records.live name).mp (kept.mem member) with ⟨_, bound⟩
    rcases bound.exists_born with ⟨birth, former⟩
    exact (former.concat (keeps name member)).unique born ▸ former
  refine (records.ordered.sublist kept).imp_of_mem fun first second less earlier later one two => ?_
  exact less earlier later (still first one) (still second two)

/-- A change of bindings is one more change in their history. -/
theorem apply (records : bindings.Records history) (change : Change) :
    (bindings.apply change).Records (history ++ [change]) := by
  cases change with
  | set new given =>
      refine ⟨fun name => ?_, fun name => ?_, ?_⟩
      · rw [lastSet?_concat, ← records.value, Bindings.apply, get?_insert]
        exact ite_congr (propext eq_comm) (fun _ => rfl) fun _ => rfl
      · rw [Bindings.apply, mem_names_iff, get?_insert]
        simp only [Bound.concat_iff, exists_or]
        by_cases same : name = new
        · subst same
          simp
        · rw [if_neg same, ← mem_names_iff, records.live]
          simp [Ne.symm same]
      · have keeps (name : String) (same : Change.set new given = .remove name) : False := by
          cases same
        have older := records.ordered_concat (.refl _) fun name _ => keeps name
        rw [Bindings.apply, names_insert]
        split
        · exact older
        · rename_i absent
          refine List.pairwise_append.mpr ⟨older, List.pairwise_singleton _ _, ?_⟩
          intro first member last same earlier later bornFirst bornLast
          rw [List.mem_singleton.mp same] at bornLast
          have fresh := Born.newest (fun place bound => absent ((records.live new).mpr ⟨_, bound⟩))
            given
          rw [bornLast.unique fresh]
          rcases (records.live first).mp member with ⟨_, bound⟩
          rcases bound.exists_born with ⟨birth, born⟩
          rw [bornFirst.unique (born.concat (keeps first))]
          exact born.bound.lt_length
  | remove gone =>
      refine ⟨fun name => ?_, fun name => ?_, ?_⟩
      · rw [lastSet?_concat, ← records.value, Bindings.apply, get?_erase]
        exact ite_congr (propext eq_comm) (fun _ => rfl) fun _ => rfl
      · rw [Bindings.apply, mem_names_iff, get?_erase]
        simp only [Bound.concat_iff]
        by_cases same : name = gone
        · subst same
          simp
        · rw [if_neg same, ← mem_names_iff, records.live]
          simp [Ne.symm same]
      · rw [Bindings.apply, names_erase]
        refine records.ordered_concat List.filter_sublist fun name member same => ?_
        cases same
        exact of_decide_eq_true (List.mem_filter.mp member).2 rfl

/-- A table that is changed again and again records all of its history. -/
theorem foldl (records : bindings.Records history) (changes : List Change) :
    (changes.foldl Bindings.apply bindings).Records (history ++ changes) := by
  induction changes generalizing bindings history with
  | nil => exact (List.append_nil history).symm ▸ records
  | cons change changes ih =>
      rw [List.append_cons]
      exact ih (records.apply change)

end Records

/-- Bindings that were there at first count as set in their order. -/
def initially (bindings : Bindings Value) : List Change :=
  bindings.entries.map fun entry => .set entry.1 entry.2

theorem bindEntry_of_absent {α : Type} {name : String} {value : α} {entries : List (String × α)}
    (absent : name ∉ entries.map Prod.fst) :
    bindEntry name value entries = entries ++ [(name, value)] := by
  induction entries with
  | nil => rfl
  | cons entry rest ih =>
      obtain ⟨key, old⟩ := entry
      rw [List.map_cons, List.mem_cons, not_or] at absent
      rcases absent with ⟨other, later⟩
      rw [bindEntry, if_neg fun same => other same.symm, ih later]
      rfl

/-- Binding the entries of bindings in their order gives these bindings. -/
theorem foldl_initially (bindings : Bindings Value) :
    bindings.initially.foldl Bindings.apply .empty = bindings := by
  have built (front rest : List (String × Value)) (start : Bindings Value)
      (begun : start.entries = front) (distinct : ((front ++ rest).map Prod.fst).Nodup) :
      ((rest.map fun entry => Change.set entry.1 entry.2).foldl Bindings.apply start).entries =
        front ++ rest := by
    induction rest generalizing front start with
    | nil => rw [List.append_nil, ← begun]; rfl
    | cons entry rest ih =>
        have split : front ++ entry :: rest = (front ++ [entry]) ++ rest := List.append_cons ..
        rw [split] at distinct ⊢
        refine ih _ (start.insert entry.1 entry.2) ?_ distinct
        have absent : entry.1 ∉ front.map Prod.fst := by
          rw [List.map_append, List.map_append] at distinct
          have apart := (List.nodup_append.mp (List.nodup_append.mp distinct).1).2.2
          exact fun member => apart _ member _ (List.mem_singleton_self _) rfl
        rw [← begun] at absent ⊢
        exact bindEntry_of_absent absent
  have same := built [] bindings.entries .empty rfl bindings.distinct
  rcases bindings with ⟨entries, distinct⟩
  simp only [initially]
  generalize (entries.map fun entry => Change.set entry.1 entry.2).foldl Bindings.apply .empty =
    folded at same ⊢
  cases folded
  cases same
  rfl

/-- Bindings record how they came about and what was done to them later. -/
theorem records_foldl (bindings : Bindings Value) (changes : List Change) :
    (changes.foldl Bindings.apply bindings).Records (bindings.initially ++ changes) := by
  have start := Records.empty.foldl bindings.initially
  rw [foldl_initially] at start
  exact start.foldl changes

end Bindings

/-! ## Tables -/

/-- A change of one of the tables. -/
structure TableChange where
  table : TableId
  change : Change

namespace Heap

/-- What a change of a table makes of the heap. -/
def applyChange (heap : Heap) (step : TableChange) : Heap :=
  match step.change with
  | .set name value => heap.bind step.table name value
  | .remove name => heap.unbind step.table name

/-- What was done to a table: its first contents, and the changes of this table among all. -/
def historyOf (heap : Heap) (steps : List TableChange) (id : TableId) : List Change :=
  (heap.table id).initially ++ (steps.filter (·.table = id)).map TableChange.change

theorem tables_applyChange (heap : Heap) (step : TableChange) :
    (heap.applyChange step).tables =
      heap.tables.modify step.table.index (·.apply step.change) := by
  rcases step with ⟨id, change⟩
  cases change <;> rfl

/-- A table is changed, and the others stay as they are. -/
theorem table_applyChange {heap : Heap} {step : TableChange} (id : TableId)
    (present : step.table.index < heap.tables.size) :
    (heap.applyChange step).table id =
      if step.table = id then (heap.table id).apply step.change else heap.table id := by
  simp only [table, tables_applyChange, Array.getD_eq_getD_getElem?, Array.getElem?_modify]
  by_cases same : step.table = id
  · subst same
    simp [Array.getElem?_eq_getElem present]
  · have different : step.table.index ≠ id.index := by
      rintro equal
      rcases step with ⟨⟨index⟩, change⟩
      cases id
      exact same (congrArg TableId.mk equal)
    simp [same, different]

theorem size_applyChange (heap : Heap) (step : TableChange) :
    (heap.applyChange step).tables.size = heap.tables.size := by
  rw [tables_applyChange, Array.size_modify]

theorem table_foldl {heap : Heap} {steps : List TableChange}
    (present : ∀ step ∈ steps, step.table.index < heap.tables.size) (id : TableId) :
    (steps.foldl applyChange heap).table id =
      ((steps.filter (·.table = id)).map TableChange.change).foldl Bindings.apply
        (heap.table id) := by
  induction steps generalizing heap with
  | nil => rfl
  | cons step steps ih =>
      rcases List.forall_mem_cons.mp present with ⟨here, later⟩
      have still : ∀ step' ∈ steps, step'.table.index < (heap.applyChange step).tables.size := by
        rw [size_applyChange]
        exact later
      rw [List.foldl_cons, ih still, table_applyChange id here]
      by_cases same : step.table = id <;> simp [same]

/-- What is left of a table when a name is removed from it, and of the others. -/
structure Removed (heap after : Heap) (id : TableId) (name : String) : Prop where
  names : (after.table id).names = (heap.table id).names.filter (· ≠ name)
  others : ∀ other ≠ id, after.table other = heap.table other

theorem removed_unbind {heap : Heap} {id : TableId} (present : id.index < heap.tables.size)
    (name : String) : heap.Removed (heap.unbind id name) id name where
  names := by
    have changed := @table_applyChange heap ⟨id, .remove name⟩ id present
    rw [if_pos rfl] at changed
    exact (congrArg Bindings.names changed).trans (Bindings.names_erase _ name)
  others other different := by
    have changed := @table_applyChange heap ⟨id, .remove name⟩ other present
    rwa [if_neg different.symm] at changed

end Heap

end Data

namespace Evaluation

open Data
open Source (Span)

theorem evalDelete_of_none {frame : Frame} {name : String} {machine : Machine} (span : Span)
    (unbound : (machine.heap.table frame.scope.inner).get? name = none) :
    ∃ error, evalDelete frame span name machine = .error (.error error) machine := by
  unfold evalDelete
  rw [bind_apply]
  simp only [readHeap, unbound]
  exact ⟨_, rfl⟩

theorem evalDelete_of_some {frame : Frame} {name : String} {machine : Machine} {value : Value}
    (span : Span) (bound : (machine.heap.table frame.scope.inner).get? name = some value) :
    evalDelete frame span name machine =
      .ok value { machine with heap := machine.heap.unbind frame.scope.inner name } := by
  unfold evalDelete
  rw [bind_apply]
  simp only [readHeap, bound]
  rfl

/--
However often names are set in some tables and removed from them, each table tells its own
history: what a name was last set to, and the names in the order in which they have been bound
without a break.  A scope sees what the nearest of its tables holds that has the name.  Removing
a name gives what it was bound to, and touches neither the order of the others nor another table.
-/
theorem tables_tell_histories {heap : Heap} {steps : List TableChange}
    (present : ∀ step ∈ steps, step.table.index < heap.tables.size) :
    let after := steps.foldl Heap.applyChange heap
    let history := heap.historyOf steps
    (∀ id, (after.table id).Records (history id)) ∧
    (∀ id name, (after.table id).contains name = true ↔ ∃ place, Bound (history id) name place) ∧
    (∀ scope name value, after.lookup? scope name = some value ↔
      ∃ nearer id farther, scope.tables = nearer ++ id :: farther ∧
        lastSet? (history id) name = some value ∧
        ∀ closer ∈ nearer, ∀ place, ¬ Bound (history closer) name place) ∧
    (∀ scope name, (after.lookup? scope name).isSome ↔
      ∃ id ∈ scope.tables, ∃ place, Bound (history id) name place) ∧
    ∀ frame span name machine, machine.heap = after →
      frame.scope.inner.index < after.tables.size →
      (∀ value, lastSet? (history frame.scope.inner) name = some value →
        ∃ left, evalDelete frame span name machine = .ok value { machine with heap := left } ∧
          after.Removed left frame.scope.inner name) ∧
      (lastSet? (history frame.scope.inner) name = none →
        ∃ error, evalDelete frame span name machine = .error (.error error) machine) := by
  intro after history
  have records (id : TableId) : (after.table id).Records (history id) := by
    have recorded := Bindings.records_foldl (heap.table id)
      ((steps.filter (·.table = id)).map TableChange.change)
    rwa [← Heap.table_foldl present] at recorded
  have unbound (id : TableId) (name : String) :
      (after.table id).get? name = none ↔ ∀ place, ¬ Bound (history id) name place := by
    rw [← not_exists, ← (records id).live, Bindings.mem_names_iff, Option.not_isSome_iff_eq_none]
  refine ⟨records, fun id name => ?_, fun scope name value => ?_, fun scope name => ?_, ?_⟩
  · rw [← (records id).live, Bindings.mem_names_iff]
    rfl
  · rw [Heap.lookup?, List.findSome?_eq_some_iff]
    simp only [(records _).value] at unbound ⊢
    simp only [unbound]
  · rw [Heap.lookup?, List.findSome?_isSome_iff]
    simp only [← (records _).live, Bindings.mem_names_iff]
  · intro frame span name machine same inside
    rw [← (records _).value, ← same]
    refine ⟨fun value found => ?_, evalDelete_of_none span⟩
    exact ⟨_, evalDelete_of_some span found, Heap.removed_unbind (same ▸ inside) name⟩

/-- Two empty tables. -/
def twoTables : Heap :=
  { tables := #[.empty, .empty] }

/-- A name is shadowed, and another one removed and bound again. -/
def shadowing : List TableChange :=
  [⟨⟨0⟩, .set "x" (.int 1)⟩, ⟨⟨1⟩, .set "y" (.int 2)⟩, ⟨⟨1⟩, .set "x" (.int 3)⟩,
    ⟨⟨0⟩, .set "z" (.int 4)⟩, ⟨⟨1⟩, .remove "y"⟩, ⟨⟨1⟩, .set "y" (.int 5)⟩,
    ⟨⟨1⟩, .set "x" (.int 6)⟩]

theorem shadowing_tells_history :
    (∀ step ∈ shadowing, step.table.index < twoTables.tables.size) ∧
      let after := shadowing.foldl Heap.applyChange twoTables
      (after.table ⟨1⟩).Records (twoTables.historyOf shadowing ⟨1⟩) ∧
      (after.table ⟨1⟩).names = ["x", "y"] ∧
      after.lookup? ⟨⟨1⟩, [⟨0⟩]⟩ "x" = some (.int 6) ∧
      after.lookup? ⟨⟨1⟩, [⟨0⟩]⟩ "z" = some (.int 4) := by
  have present : ∀ step ∈ shadowing, step.table.index < twoTables.tables.size := by decide
  exact ⟨present, (tables_tell_histories present).1 ⟨1⟩, rfl, rfl, rfl⟩

end Evaluation
end Scripting
