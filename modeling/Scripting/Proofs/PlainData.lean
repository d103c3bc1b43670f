import Mathlib.Data.List.Forall2
import Scripting.Proofs.PlacedOperations

namespace Scripting
namespace Data

/-!
Plain data.

The absence of a value, integers, texts and lists of these, nested as deeply as one likes, are
data in their own right: what such a value is does not depend on the heap that it lives in.
So they are described by trees, and a heap is said to build a tree as a value.  The same tree
may be built in several places of a heap and in several heaps, each time as another value.

How a value is shown depends on its tree alone, and values of the same tree are equal.  For
both, lists are followed from outside to inside; since a tree is not part of itself, no list
is met again inside itself.
-/

/--
The trees of plain data.  The least integer is not among them, because its negation is not an
integer, and neither are texts with characters that are shown by their code points.
-/
inductive Datum where
  | nothing
  | int (value : Int64) (negatable : value ≠ Int64.minValue)
  | text (value : String)
      (visible : ∀ c ∈ value.toList, Text.quotedChar c ≠ Text.codePointEscape c)
  | list (items : List Datum)

namespace Datum

@[elab_as_elim, induction_eliminator]
theorem byParts {motive : Datum → Prop} (nothing : motive .nothing)
    (int : ∀ value negatable, motive (.int value negatable))
    (text : ∀ value visible, motive (.text value visible))
    (list : ∀ items : List Datum, (∀ item ∈ items, motive item) → motive (.list items)) :
    ∀ datum, motive datum
  | .nothing => nothing
  | .int value negatable => int value negatable
  | .text value visible => text value visible
  | .list items => list items fun item _ => byParts nothing int text list item

mutual

/-- The text of a datum. -/
def written : Datum → List Char
  | .nothing => "None".toList
  | .int value _ => (Number.writeInt value).toList
  | .text value _ => (Text.quoted value).toList
  | .list items => '[' :: ([',', ' '].intercalate (writtenAll items) ++ [']'])

def writtenAll : List Datum → List (List Char)
  | [] => []
  | item :: rest => item.written :: writtenAll rest

end

theorem writtenAll_eq (items : List Datum) : writtenAll items = items.map written := by
  induction items with
  | nil => rfl
  | cons item rest ih => rw [writtenAll, List.map_cons, ih]

end Datum

namespace Heap

/-- The heap builds a datum up as a value. -/
inductive Builds (heap : Heap) : Datum → Value → Prop
  | nothing : heap.Builds .nothing .nothing
  | int {value : Int64} {negatable : value ≠ Int64.minValue} :
      heap.Builds (.int value negatable) (.int value)
  | text {value : String}
      {visible : ∀ c ∈ value.toList, Text.quotedChar c ≠ Text.codePointEscape c} :
      heap.Builds (.text value visible) (.text value)
  | list {data : List Datum} {id : ListId} {items : List Value}
      (stored : heap.lists[id.index]? = some items) (each : List.Forall₂ heap.Builds data items) :
      heap.Builds (.list data) (.list id)

end Heap

/-! ## Lists element by element -/

section Each

variable {α β γ : Type} {related other : α → β → Prop} {first : List α} {second : List β}

/-- What is said of the pairs may be weakened for those that occur. -/
theorem each_weaken (each : List.Forall₂ related first second)
    (weaker : ∀ one ∈ first, ∀ two ∈ second, related one two → other one two) :
    List.Forall₂ other first second := by
  induction each with
  | nil => exact .nil
  | cons pair later ih =>
      refine .cons (weaker _ List.mem_cons_self _ List.mem_cons_self pair) (ih ?_)
      intro one member two among
      exact weaker one (List.mem_cons_of_mem _ member) two (List.mem_cons_of_mem _ among)

theorem map_eq_of_each {left : α → γ} {right : β → γ}
    (each : List.Forall₂ (fun one two => left one = right two) first second) :
    first.map left = second.map right := by
  rw [← List.forall₂_eq_eq_eq, List.forall₂_map_left_iff, List.forall₂_map_right_iff]
  exact each

theorem each_unique {others : List α} (each : List.Forall₂ related first second)
    (again : List.Forall₂ related others second)
    (unique : ∀ one ∈ first, ∀ value two, related one value → related two value → one = two) :
    first = others := by
  induction each generalizing others with
  | nil =>
      cases again
      rfl
  | cons pair later ih =>
      cases again with
      | cons pair' later' =>
          rw [unique _ List.mem_cons_self _ _ pair pair',
            ih later' fun one member => unique one (List.mem_cons_of_mem _ member)]

theorem sameElements_of_each {data : List α} {related : α → Value → Prop}
    {lefts rights : List Value} {same : Value → Value → Bool}
    (each : List.Forall₂ related data lefts) (again : List.Forall₂ related data rights)
    (agree : ∀ datum ∈ data, ∀ left ∈ lefts, ∀ right, related datum left → related datum right →
      same left right = true) :
    sameElements same lefts rights = true := by
  induction each generalizing rights with
  | nil =>
      cases again
      rfl
  | cons pair later ih =>
      cases again with
      | cons pair' later' =>
          have rest := ih later' fun datum member left among =>
            agree datum (List.mem_cons_of_mem _ member) left (List.mem_cons_of_mem _ among)
          rw [sameElements, rest, Bool.and_true]
          exact agree _ List.mem_cons_self _ List.mem_cons_self _ pair pair'

end Each

namespace Heap

variable {heap heap' : Heap} {datum other : Datum} {value left right : Value}

/-! ## Where a datum is built -/

/-- All lists of the heap are at their places in the other one. -/
def ListsKept (heap heap' : Heap) : Prop :=
  ∀ (place : Nat) (items : List Value),
    heap.lists[place]? = some items → heap'.lists[place]? = some items

theorem Builds.kept (builds : heap.Builds datum value) (lists : heap.ListsKept heap') :
    heap'.Builds datum value := by
  induction datum generalizing value with
  | nothing =>
      cases builds
      exact .nothing
  | int =>
      cases builds
      exact .int
  | text =>
      cases builds
      exact .text
  | list data ih =>
      cases builds with
      | list stored each =>
          refine .list (lists _ _ stored) (each_weaken each ?_)
          intro item member value _ held
          exact ih item member held

/-- A value is one datum only. -/
theorem Builds.unique (builds : heap.Builds datum value) (again : heap.Builds other value) :
    datum = other := by
  induction datum generalizing other value with
  | nothing =>
      cases builds
      cases again
      rfl
  | int =>
      cases builds
      cases again
      rfl
  | text =>
      cases builds
      cases again
      rfl
  | list data ih =>
      cases builds with
      | list stored each =>
          cases again with
          | list stored' each' =>
              cases stored.symm.trans stored'
              refine congrArg Datum.list (each_unique each each' ?_)
              intro item member value two
              exact ih item member

theorem list_of_stored {id : ListId} {items : List Value}
    (stored : heap.lists[id.index]? = some items) : heap.list id = items := by
  unfold list
  rw [Array.getD_eq_getD_getElem?, stored]
  rfl

/-- The datum is part of the data of all these lists. -/
def Enclose (heap : Heap) (entered : List ListId) (datum : Datum) : Prop :=
  ∀ id ∈ entered, ∃ outer, heap.Builds outer (.list id) ∧ sizeOf datum < sizeOf outer

theorem Enclose.fresh {entered : List ListId} {id : ListId}
    (enclose : heap.Enclose entered datum) (builds : heap.Builds datum (.list id)) :
    id ∉ entered := by
  intro member
  rcases enclose id member with ⟨outer, held, smaller⟩
  rw [builds.unique held] at smaller
  exact Nat.lt_irrefl _ smaller

theorem Enclose.enter {entered : List ListId} {id : ListId} {data : List Datum}
    (enclose : heap.Enclose entered (.list data)) (builds : heap.Builds (.list data) (.list id))
    {item : Datum} (member : item ∈ data) : heap.Enclose (id :: entered) item := by
  have smaller : sizeOf item < sizeOf (Datum.list data) := by
    have among := List.sizeOf_lt_of_mem member
    rw [Datum.list.sizeOf_spec]
    omega
  intro place listed
  rcases List.mem_cons.mp listed with rfl | listed
  · exact ⟨.list data, builds, smaller⟩
  · rcases enclose place listed with ⟨outer, held, larger⟩
    exact ⟨outer, held, Nat.lt_trans smaller larger⟩

/-! ## Showing -/

theorem Builds.showWithin {depth : Nat} {entered : List ListId} (builds : heap.Builds datum value)
    (room : heap.Room depth entered) (enclose : heap.Enclose entered datum) :
    (heap.showWithin depth entered value).toList = datum.written := by
  induction datum generalizing value depth entered with
  | nothing =>
      cases builds
      rw [showWithin_atom fun _ same => Value.noConfusion same]
      rfl
  | int =>
      cases builds
      rw [showWithin_atom fun _ same => Value.noConfusion same]
      rfl
  | text =>
      cases builds
      rw [showWithin_atom fun _ same => Value.noConfusion same]
      rfl
  | list data ih =>
      have whole := builds
      cases builds with
      | @list _ id items stored each =>
          rcases Nat.exists_eq_succ_of_ne_zero (Nat.ne_of_gt room.pos) with ⟨depth, rfl⟩
          -- The list is not among those entered, so its items are shown.
          have fresh := enclose.fresh whole
          have parts : data.map Datum.written =
              items.map fun item => (heap.showWithin depth (id :: entered) item).toList := by
            refine map_eq_of_each (each_weaken each ?_)
            intro part member item among held
            have inside : item ∈ heap.list id := (list_of_stored stored).symm ▸ among
            exact (ih part member held (room.enter fresh inside) (enclose.enter whole member)).symm
          rw [Heap.showWithin, if_neg fresh, list_of_stored stored, Datum.written,
            Datum.writtenAll_eq, parts]
          simp only [String.toList_append, String.toList_intercalate, List.map_map]
          rfl

/-- The text of a value depends on its datum alone. -/
theorem Builds.represent (builds : heap.Builds datum value) :
    (heap.represent value).toList = datum.written :=
  builds.showWithin (.start (Nat.lt_succ_self _)) fun _ => nofun

/-! ## Comparing -/

/-- Values of the same datum are found equal as far down as the datum goes. -/
theorem Builds.equalWithin {depth : Nat} (builds : heap.Builds datum left)
    (again : heap.Builds datum right) (deep : sizeOf datum ≤ depth) :
    heap.equalWithin depth left right = true := by
  induction datum generalizing left right depth with
  | nothing =>
      cases builds
      cases again
      rw [equalWithin_atom fun _ _ both => Value.noConfusion both.1]
      simp [sameAtom]
  | int =>
      cases builds
      cases again
      rw [equalWithin_atom fun _ _ both => Value.noConfusion both.1]
      simp [sameAtom]
  | text =>
      cases builds
      cases again
      rw [equalWithin_atom fun _ _ both => Value.noConfusion both.1]
      simp [sameAtom]
  | list data ih =>
      rw [Datum.list.sizeOf_spec] at deep
      obtain ⟨depth, rfl⟩ : ∃ less, depth = less + 1 := ⟨depth - 1, by omega⟩
      cases builds with
      | @list _ id items stored each =>
          cases again with
          | @list _ other others stored' each' =>
              have parts : sameElements (heap.equalWithin depth) items others = true := by
                refine sameElements_of_each each each' ?_
                intro part member item _ other held held'
                have smaller := List.sizeOf_lt_of_mem member
                exact ih part member held held' (by omega)
              rw [Heap.equalWithin, list_of_stored stored, list_of_stored stored', parts]
              exact Bool.or_true _

/-- Values of the same datum are equal. -/
theorem Builds.equal (builds : heap.Builds datum left) (again : heap.Builds datum right) :
    heap.equal left right = true :=
  equal_iff_exists_depth.mpr ⟨_, builds.equalWithin again (Nat.le_refl _)⟩

end Heap

/-! ## Data of placed heaps -/

namespace Surroundings

variable {around : Surroundings} {inner : Heap} {datum : Datum} {value : Value}

/-- Placing a heap among others leaves all lists around it where they are. -/
theorem listsKept_outside : around.outside.ListsKept (around.heap inner) := by
  intro place items stored
  have inside : place < around.outside.lists.size := by
    rcases Array.getElem?_eq_some_iff.mp stored with ⟨inside, -⟩
    exact inside
  change (placed 0 around.outside.lists around.values inner.lists)[place]? = some items
  rw [getElem?_placed_raw (Nat.zero_le _) (Nat.zero_le _), if_neg (Nat.not_lt_zero _),
    if_pos inside, stored]

/-- What a heap builds, it builds as the value placed. -/
theorem builds_heap (builds : inner.Builds datum value) :
    (around.heap inner).Builds datum (around.value value) := by
  induction datum generalizing value with
  | nothing =>
      cases builds
      exact .nothing
  | int =>
      cases builds
      exact .int
  | text =>
      cases builds
      exact .text
  | list data ih =>
      cases builds with
      | @list _ id items stored each =>
          have found : (around.heap inner).lists[(around.list id).index]? =
              some (around.values items) := by
            change (placed 0 around.outside.lists around.values inner.lists)[
              shift 0 around.outside.lists.size id.index]? = _
            rw [getElem?_placed (Nat.zero_le _) (Nat.zero_le _), stored]
            rfl
          refine .list found (List.forall₂_map_right_iff.mpr (each_weaken each ?_))
          intro item member value _ held
          exact ih item member held

end Surroundings

end Data
end Scripting
