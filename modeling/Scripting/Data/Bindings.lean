namespace Scripting
namespace Data

/-!
Names bound to values, in the order in which they were first bound.

Scopes, class members, object attributes and module exports are all collections
of this kind.  Binding a name again keeps its place; removing it closes the gap.
-/

/-- Bind a name in a list of entries: in its place if it is there, else at the end. -/
def bindEntry {α : Type} (name : String) (value : α) :
    List (String × α) → List (String × α)
  | [] => [(name, value)]
  | (key, old) :: rest =>
      if key = name then (key, value) :: rest else (key, old) :: bindEntry name value rest

theorem map_fst_bindEntry {α : Type} (name : String) (value : α)
    (entries : List (String × α)) :
    (bindEntry name value entries).map Prod.fst =
      if name ∈ entries.map Prod.fst then entries.map Prod.fst
      else entries.map Prod.fst ++ [name] := by
  induction entries with
  | nil => simp [bindEntry]
  | cons entry rest ih =>
      obtain ⟨key, old⟩ := entry
      by_cases same : key = name
      · simp [bindEntry, same]
      · have different : ¬ name = key := fun equal => same equal.symm
        simp only [bindEntry, if_neg same, List.map_cons, List.mem_cons, different, false_or, ih]
        split <;> simp

theorem nodup_bindEntry {α : Type} (name : String) (value : α)
    (entries : List (String × α)) (distinct : (entries.map Prod.fst).Nodup) :
    ((bindEntry name value entries).map Prod.fst).Nodup := by
  rw [map_fst_bindEntry]
  split
  · exact distinct
  · rename_i absent
    exact List.nodup_append.mpr ⟨distinct, by simp, by
      intro key member other last
      rw [List.mem_singleton.mp last]
      exact fun equal => absent (equal ▸ member)⟩

theorem lookup_bindEntry {α : Type} (name other : String) (value : α)
    (entries : List (String × α)) :
    (bindEntry name value entries).lookup other =
      if other = name then some value else entries.lookup other := by
  induction entries with
  | nil =>
      by_cases same : other = name
      · simp [bindEntry, same]
      · have passed : (other == name) = false := by simpa using same
        simp [bindEntry, List.lookup_cons, passed, same]
  | cons entry rest ih =>
      obtain ⟨key, old⟩ := entry
      by_cases here : key = name
      · by_cases same : other = name
        · simp [bindEntry, here, same]
        · have passed : (other == name) = false := by simpa using same
          simp [bindEntry, List.lookup_cons, here, passed, same]
      · by_cases found : other = key
        · simp [bindEntry, here, found]
        · have passed : (other == key) = false := by simpa using found
          simp only [bindEntry, if_neg here, List.lookup_cons, passed, ih]

/-- Entries under other keys are not touched when those under a key are removed. -/
theorem lookup_filter_ne {κ α : Type} [DecidableEq κ] {key other : κ} (different : other ≠ key)
    (entries : List (κ × α)) :
    (entries.filter fun entry => entry.1 ≠ key).lookup other = entries.lookup other := by
  induction entries with
  | nil => rfl
  | cons entry rest ih =>
      obtain ⟨first, value⟩ := entry
      by_cases gone : first = key
      · subst gone
        have passed : (other == first) = false := beq_eq_false_iff_ne.mpr different
        rw [List.filter_cons_of_neg (by simp), ih, List.lookup_cons, passed]
      · rw [List.filter_cons_of_pos (by simpa using gone), List.lookup_cons, List.lookup_cons, ih]

/-- Entries by name, no name twice, in the order of their first binding. -/
structure Bindings (α : Type) where
  entries : List (String × α)
  distinct : (entries.map Prod.fst).Nodup

namespace Bindings

variable {α : Type}

def empty : Bindings α where
  entries := []
  distinct := by simp

instance : Inhabited (Bindings α) := ⟨empty⟩

/-- The value a name is bound to. -/
def get? (bindings : Bindings α) (name : String) : Option α :=
  bindings.entries.lookup name

/-- Whether a name is bound. -/
def contains (bindings : Bindings α) (name : String) : Bool :=
  (bindings.get? name).isSome

/-- Bind a name, replacing an earlier binding in its place. -/
def insert (bindings : Bindings α) (name : String) (value : α) : Bindings α where
  entries := bindEntry name value bindings.entries
  distinct := nodup_bindEntry name value bindings.entries bindings.distinct

/-- Remove the binding of a name; the others keep their order. -/
def erase (bindings : Bindings α) (name : String) : Bindings α where
  entries := bindings.entries.filter fun entry => entry.1 ≠ name
  distinct := bindings.distinct.sublist (List.filter_sublist.map Prod.fst)

/-- The bound names in order. -/
def names (bindings : Bindings α) : List String :=
  bindings.entries.map Prod.fst

/-- The binding that was made last is the one that counts; other names are not touched. -/
theorem get?_insert (bindings : Bindings α) (name other : String) (value : α) :
    (bindings.insert name value).get? other =
      if other = name then some value else bindings.get? other :=
  lookup_bindEntry name other value bindings.entries

/-- A name that is removed is not bound any more; other names are not touched. -/
theorem get?_erase (bindings : Bindings α) (name other : String) :
    (bindings.erase name).get? other = if other = name then none else bindings.get? other := by
  by_cases same : other = name
  · rw [if_pos same, get?, List.lookup_eq_none_iff]
    intro entry member
    have kept := of_decide_eq_true (List.mem_filter.mp member).2
    simpa [same] using Ne.symm kept
  · rw [if_neg same]
    exact lookup_filter_ne same bindings.entries

/-- A name that is bound again keeps its place, and a new one comes last. -/
theorem names_insert (bindings : Bindings α) (name : String) (value : α) :
    (bindings.insert name value).names =
      if name ∈ bindings.names then bindings.names else bindings.names ++ [name] :=
  map_fst_bindEntry name value bindings.entries

/-- Removing a name leaves the others in their order. -/
theorem names_erase (bindings : Bindings α) (name : String) :
    (bindings.erase name).names = bindings.names.filter (· ≠ name) := by
  simp only [names, erase, List.filter_map]
  rfl

/-- Bind further entries one after the other. -/
def insertAll (bindings : Bindings α) (entries : List (String × α)) : Bindings α :=
  entries.foldl (fun bound entry => bound.insert entry.1 entry.2) bindings

/-- The bindings that arise from binding entries one after the other. -/
def ofList (entries : List (String × α)) : Bindings α :=
  empty.insertAll entries

/-- The same names bound to other values. -/
def map {β : Type} (change : α → β) (bindings : Bindings α) : Bindings β where
  entries := bindings.entries.map fun entry => (entry.1, change entry.2)
  distinct := by
    have same : (bindings.entries.map fun entry => (entry.1, change entry.2)).map Prod.fst =
        bindings.entries.map Prod.fst := by
      rw [List.map_map]
      rfl
    rw [same]
    exact bindings.distinct

end Bindings

end Data
end Scripting
