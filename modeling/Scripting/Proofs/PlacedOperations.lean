import Mathlib.Data.List.InsertIdx
import Scripting.Data.Arithmetic
import Scripting.Data.Conversion
import Scripting.Data.Suggestion
import Scripting.Proofs.ComparedLists
import Scripting.Proofs.Placement

namespace Scripting
namespace Data

/-!
Operations on a placed heap.

Everything that is computed from values and the heap gives the same, or the same up to
placement.  The only difficulty is how deep lists are followed when they are shown or compared:
a limit is given by the number of lists, which differs between a heap and its surroundings.
Since no list is entered twice to be shown, that limit is never reached, and any larger one does
as well; comparisons have a limit of their own beyond which nothing changes.
-/

open Program (BinaryOp CompareOp UnaryOp)

/-! ## Depth of lists -/

/-- Lists that are entered one inside the other are no more than there are. -/
theorem length_entered_le {heap : Heap} {entered : List ListId} (distinct : entered.Nodup)
    (inside : ∀ id ∈ entered, id.index < heap.lists.size) :
    entered.length ≤ heap.lists.size := by
  have apart : (entered.map ListId.index).Nodup := by
    refine List.Pairwise.map ListId.index (fun first second different same => different ?_) distinct
    cases first
    cases second
    cases same
    rfl
  have below : entered.map ListId.index ⊆ List.range heap.lists.size := by
    intro index member
    obtain ⟨id, entered, rfl⟩ := List.mem_map.mp member
    exact List.mem_range.mpr (inside id entered)
  have bounded := apart.length_le_of_subset below
  rw [List.length_map, List.length_range] at bounded
  exact bounded

namespace Heap

variable {heap : Heap}

/-- Only lists that are there have elements. -/
theorem index_lt_of_mem_list {id : ListId} {item : Value} (member : item ∈ heap.list id) :
    id.index < heap.lists.size := by
  refine Decidable.byContradiction fun beyond => ?_
  rw [list_of_size_le (Nat.le_of_not_lt beyond)] at member
  cases member

/-- Below lists that have been entered there is room for the others. -/
structure Room (heap : Heap) (depth : Nat) (entered : List ListId) : Prop where
  distinct : entered.Nodup
  inside : ∀ id ∈ entered, id.index < heap.lists.size
  enough : heap.lists.size < depth + entered.length

theorem Room.start {depth : Nat} (enough : heap.lists.size < depth) : heap.Room depth [] :=
  ⟨List.nodup_nil, nofun, enough⟩

theorem Room.pos {depth : Nat} {entered : List ListId} (room : heap.Room depth entered) :
    0 < depth := by
  have bounded := length_entered_le room.distinct room.inside
  have enough := room.enough
  omega

theorem Room.enter {depth : Nat} {entered : List ListId} {id : ListId} {item : Value}
    (room : heap.Room (depth + 1) entered) (fresh : id ∉ entered) (member : item ∈ heap.list id) :
    heap.Room depth (id :: entered) where
  distinct := List.nodup_cons.mpr ⟨fresh, room.distinct⟩
  inside other listed := by
    rcases List.mem_cons.mp listed with rfl | listed
    · exact index_lt_of_mem_list member
    · exact room.inside other listed
  enough := by
    have enough := room.enough
    rw [List.length_cons]
    omega

theorem showWithin_atom {value : Value} (atom : ∀ id, value ≠ .list id) (depth : Nat)
    (entered : List ListId) : heap.showWithin depth entered value = heap.showAtom value := by
  unfold showWithin
  split
  · exact absurd rfl (atom _)
  · rfl

/-- Where there is room, the depth does not matter. -/
theorem showWithin_of_room {depth depth' : Nat} {entered : List ListId}
    (room : heap.Room depth entered) (room' : heap.Room depth' entered) (value : Value) :
    heap.showWithin depth entered value = heap.showWithin depth' entered value := by
  induction depth generalizing depth' entered value with
  | zero => exact absurd room.pos (Nat.lt_irrefl 0)
  | succ depth ih =>
      obtain ⟨depth', rfl⟩ := Nat.exists_eq_succ_of_ne_zero (Nat.ne_of_gt room'.pos)
      by_cases list : ∃ id, value = .list id
      · obtain ⟨id, rfl⟩ := list
        simp only [showWithin]
        by_cases again : id ∈ entered
        · rw [if_pos again, if_pos again]
        · have same : (heap.list id).map (heap.showWithin depth (id :: entered)) =
              (heap.list id).map (heap.showWithin depth' (id :: entered)) :=
            List.map_congr_left fun item member =>
              ih (room.enter again member) (room'.enter again member) item
          rw [if_neg again, if_neg again, same]
      · have atom := not_exists.mp list
        rw [showWithin_atom atom, showWithin_atom atom]

end Heap

namespace Surroundings

variable {around : Surroundings} {inner : Heap}

theorem value_eq_list {value : Value} {id : ListId} (same : around.value value = .list id) :
    ∃ other, value = .list other := by
  cases value with
  | list other => exact ⟨other, rfl⟩
  | _ => cases same

/-! ## Showing -/

theorem className_heap (id : ObjectId) :
    (around.heap inner).className (around.object id) = inner.className id := by
  unfold Heap.className
  rw [getElem?_objects_heap]
  cases inner.objects[id.index]? with
  | some object => simp only [Option.map_some, placeObject, constructor_heap, placeClass]
  | none => rfl

theorem typeName_heap (value : Value) :
    (around.heap inner).typeName (around.value value) = inner.typeName value := by
  cases value <;> simp only [Surroundings.value, Heap.typeName, className_heap]

theorem showAtom_heap (stocked : around.Stocked inner) (value : Value) :
    (around.heap inner).showAtom (around.value value) = inner.showAtom value := by
  unfold Heap.showAtom
  cases value <;>
    simp only [Surroundings.value, library_heap, placeLibrary, constructor_heap, placeClass,
      className_heap, function_heap, placeFunction, builtin_heap stocked, placeBuiltin]

theorem mem_map_list {id : ListId} {entered : List ListId} :
    around.list id ∈ entered.map around.list ↔ id ∈ entered := by
  rw [List.mem_map]
  constructor
  · rintro ⟨other, member, same⟩
    rw [← list_injective same]
    exact member
  · intro member
    exact ⟨id, member, rfl⟩

theorem showWithin_heap (stocked : around.Stocked inner) (depth : Nat) (entered : List ListId)
    (value : Value) :
    (around.heap inner).showWithin depth (entered.map around.list) (around.value value) =
      inner.showWithin depth entered value := by
  induction depth generalizing entered value with
  | zero =>
      simp only [Heap.showWithin]
      exact showAtom_heap stocked value
  | succ depth ih =>
      by_cases list : ∃ id, value = .list id
      · obtain ⟨id, rfl⟩ := list
        have below : ((around.heap inner).list (around.list id)).map
            ((around.heap inner).showWithin depth (around.list id :: entered.map around.list)) =
              (inner.list id).map (inner.showWithin depth (id :: entered)) := by
          rw [list_heap, values, List.map_map]
          exact List.map_congr_left fun item _ => ih (id :: entered) item
        simp only [Surroundings.value, Heap.showWithin, mem_map_list, below]
      · rw [Heap.showWithin_atom (not_exists.mp list),
          Heap.showWithin_atom fun id same => list (value_eq_list same)]
        exact showAtom_heap stocked value

/-- There are at least as many lists around as inside. -/
theorem size_lists_le : inner.lists.size ≤ (around.heap inner).lists.size := by
  have size : (around.heap inner).lists.size = shift 0 around.outside.lists.size inner.lists.size :=
    size_placed (Nat.zero_le _) (Nat.zero_le _)
  rw [size]
  unfold shift
  split <;> omega

theorem represent_heap (stocked : around.Stocked inner) (value : Value) :
    (around.heap inner).represent (around.value value) = inner.represent value := by
  have more := @size_lists_le around inner
  have deep : inner.Room ((around.heap inner).lists.size + 1) [] := .start (by omega)
  unfold Heap.represent
  rw [Heap.showWithin_of_room (.start (Nat.lt_succ_self _)) deep]
  exact showWithin_heap stocked _ [] value

theorem display_heap (stocked : around.Stocked inner) (value : Value) :
    (around.heap inner).display (around.value value) = inner.display value := by
  have shown := represent_heap stocked value
  cases value <;> simp only [Surroundings.value, Heap.display] at shown ⊢ <;> exact shown

theorem isTruthy_heap (value : Value) :
    (around.heap inner).isTruthy (around.value value) = inner.isTruthy value := by
  cases value <;> simp only [Surroundings.value, Heap.isTruthy, list_heap, values, List.isEmpty_map]

/-! ## Comparing -/

theorem value_eq_iff {left right : Value} :
    around.value left = around.value right ↔ left = right :=
  ⟨value_injective, congrArg around.value⟩

theorem toFloat?_value (value : Value) : (around.value value).toFloat? = value.toFloat? := by
  cases value <;> rfl

theorem sameAtom_value (left right : Value) :
    sameAtom (around.value left) (around.value right) = sameAtom left right := by
  have same := @value_eq_iff around left right
  cases left <;> cases right <;>
    simp only [Surroundings.value, sameAtom, decide_eq_decide] at same ⊢ <;> exact same

theorem sameElements_values {same same' : Value → Value → Bool}
    (agree : ∀ left right, same' (around.value left) (around.value right) = same left right)
    (lefts rights : List Value) :
    sameElements same' (around.values lefts) (around.values rights) =
      sameElements same lefts rights := by
  induction lefts generalizing rights with
  | nil => cases rights <;> rfl
  | cons left lefts ih =>
      cases rights with
      | nil => rfl
      | cons right rights =>
          have rest := ih rights
          simp only [values, List.map_cons, sameElements, agree] at rest ⊢
          rw [rest]

theorem equalWithin_heap (depth : Nat) (left right : Value) :
    (around.heap inner).equalWithin depth (around.value left) (around.value right) =
      inner.equalWithin depth left right := by
  induction depth generalizing left right with
  | zero =>
      simp only [Heap.equalWithin]
      exact sameAtom_value left right
  | succ depth ih =>
      by_cases lists : ∃ id other, left = .list id ∧ right = .list other
      · obtain ⟨id, other, rfl, rfl⟩ := lists
        have below := sameElements_values ih (inner.list id) (inner.list other)
        have same : around.list id = around.list other ↔ id = other :=
          ⟨list_injective, congrArg around.list⟩
        simp only [Surroundings.value, Heap.equalWithin, list_heap, same]
        rw [below]
      · have apart : ∀ id other,
            ¬ (around.value left = .list id ∧ around.value right = .list other) := by
          rintro id other ⟨first, second⟩
          obtain ⟨id, rfl⟩ := value_eq_list first
          obtain ⟨other, rfl⟩ := value_eq_list second
          exact lists ⟨id, other, rfl, rfl⟩
        rw [Heap.equalWithin_atom apart,
          Heap.equalWithin_atom fun id other both => lists ⟨id, other, both⟩]
        exact sameAtom_value left right

theorem equal_heap (left right : Value) :
    (around.heap inner).equal (around.value left) (around.value right) =
      inner.equal left right := by
  rw [Bool.eq_iff_iff, Heap.equal_iff_exists_depth, Heap.equal_iff_exists_depth]
  simp only [equalWithin_heap]

theorem order?_heap (op : CompareOp) (left right : Value) :
    (around.heap inner).order? op (around.value left) (around.value right) =
      inner.order? op left right := by
  have first := @typeName_heap around inner left
  have second := @typeName_heap around inner right
  cases left <;> cases right <;> simp only [Surroundings.value] at first second ⊢ <;>
    simp only [Heap.order?, Value.toFloat?, first, second]

theorem compare_heap (op : CompareOp) (left right : Value) :
    (around.heap inner).compare op (around.value left) (around.value right) =
      inner.compare op left right := by
  cases op <;> simp only [Heap.compare, equal_heap, order?_heap]

/-! ## Positions and conversions -/

theorem values_ofChars (text : List Char) : around.values (text.map ofChar) = text.map ofChar := by
  unfold values
  rw [List.map_map]
  rfl

theorem items_heap (value : Value) :
    (around.heap inner).items (around.value value) = (inner.items value).map around.values := by
  have type := @typeName_heap around inner value
  cases value <;> simp only [Surroundings.value] at type ⊢ <;>
    simp only [Heap.items, Except.map, list_heap, values_ofChars, type]

theorem toItems_heap (value : Value) :
    (around.heap inner).toItems (around.value value) = (inner.toItems value).map around.values := by
  have type := @typeName_heap around inner value
  cases value <;> simp only [Surroundings.value] at type ⊢ <;>
    simp only [Heap.toItems, Except.map, list_heap, values_ofChars, type]

theorem length_heap (value : Value) :
    (around.heap inner).length (around.value value) = inner.length value := by
  have type := @typeName_heap around inner value
  cases value <;> simp only [Surroundings.value] at type ⊢ <;>
    simp only [Heap.length, list_heap, values, List.length_map, type]

theorem toInt_heap (value : Value) :
    (around.heap inner).toInt (around.value value) = (inner.toInt value).map around.value := by
  have type := @typeName_heap around inner value
  cases value <;> simp only [Surroundings.value] at type ⊢ <;> simp only [Heap.toInt, type]
  case int => rfl
  case float x => cases wholePart? x <;> rfl
  case text s => cases Number.readInt? (numeralOf s) <;> rfl
  all_goals rfl

theorem toFloat_heap (value : Value) :
    (around.heap inner).toFloat (around.value value) = (inner.toFloat value).map around.value := by
  have type := @typeName_heap around inner value
  cases value <;> simp only [Surroundings.value] at type ⊢ <;> simp only [Heap.toFloat, type]
  case text s => cases Number.readFloat? (numeralOf s) <;> rfl
  all_goals rfl

/-- An element is found at the same place. -/
theorem at?_values (items : List Value) (place : Option Nat) :
    place.bind (fun place => (around.values items)[place]?) =
      (place.bind fun place => items[place]?).map around.value := by
  cases place with
  | none => rfl
  | some place => exact List.getElem?_map

theorem element_heap (value index : Value) :
    (around.heap inner).element (around.value value) (around.value index) =
      (inner.element value index).map around.value := by
  have type := @typeName_heap around inner value
  have found : ∀ (items : List Value) (i : Int64),
      ((place? (around.values items).length i.toInt).bind
        fun place => (around.values items)[place]?) =
      ((place? items.length i.toInt).bind fun place => items[place]?).map around.value := by
    intro items i
    rw [at?_values, values, List.length_map]
  have indexType := @typeName_heap around inner index
  cases index with
  | int i =>
      cases value with
      | list id =>
          unfold Heap.element
          simp only [Surroundings.value, list_heap, found]
          cases (place? (inner.list id).length i.toInt).bind
            fun place => (inner.list id)[place]? <;> rfl
      | text s =>
          have letters := found (s.toList.map ofChar) i
          rw [values_ofChars] at letters
          unfold Heap.element
          simp only [Surroundings.value]
          generalize (place? (s.toList.map ofChar).length i.toInt).bind
            (fun place => (s.toList.map ofChar)[place]?) = letter at letters
          cases letter with
          | none => rfl
          | some letter => exact congrArg Except.ok (Option.some.inj letters)
      | _ =>
          unfold Heap.element
          simp only [Surroundings.value] at type ⊢
          simp only [type]
          rfl
  | _ =>
      generalize around.value value = moved at type
      unfold Heap.element
      simp only [Surroundings.value] at indexType ⊢
      simp only [type, indexType]
      rfl

/-! ## Operators -/

/-- The result of an operator inside the surroundings. -/
def product (around : Surroundings) : Product → Product
  | .value value => .value (around.value value)
  | .list items => .list (around.values items)
  | .overgrown overgrowth => .overgrown overgrowth

/-- A result without identity is the same everywhere. -/
def Plain (around : Surroundings) (result : Except Fault Product) : Prop :=
  result.map around.product = result

namespace Plain

theorem ite {condition : Prop} [Decidable condition] {yes no : Except Fault Product}
    (positive : around.Plain yes) (negative : around.Plain no) :
    around.Plain (if condition then yes else no) := by
  split
  · exact positive
  · exact negative

theorem checked (op : BinaryOp) (word : Option Int64) : around.Plain (checked op word) := by
  cases word <;> rfl

theorem exact (op : BinaryOp) (n : Int) : around.Plain (exact op n) :=
  checked op _

theorem finite (op : BinaryOp) (x y result : Float) : around.Plain (finite op x y result) :=
  ite rfl rfl

theorem integerPower (base exponent : Int) : around.Plain (integerPower base exponent) :=
  ite (exact _ _) (ite (exact _ _) (checked _ _))

theorem integerScale (base exponent : Int) : around.Plain (integerScale base exponent) :=
  checked _ _

theorem floatPower (x y : Float) : around.Plain (Heap.floatPower x y) :=
  ite rfl (ite rfl (finite _ _ _ _))

theorem repeatText (text : String) (count : Int64) : around.Plain (repeatText text count) := by
  unfold Data.repeatText
  cases repetitions text.utf8ByteSize count <;> rfl

theorem floats {heap : Heap} {op : BinaryOp} {left right : Value}
    {next : Float × Float → Except Fault Product} (after : ∀ operands, around.Plain (next operands)) :
    around.Plain (heap.floatOperands op left right >>= next) := by
  cases heap.floatOperands op left right with
  | error fault => rfl
  | ok operands => exact after operands

end Plain

theorem repeatItems_values (items : List Value) (count : Int64) :
    repeatItems (around.values items) count = (repeatItems items count).map around.product := by
  unfold repeatItems
  rw [values, List.length_map]
  cases repetitions items.length count with
  | error fault => rfl
  | ok times =>
      by_cases large : sizeLimit < items.length * times * elementSize
      · simp only [Except.map, dif_pos large]
        rfl
      simp only [Except.map, dif_neg large, Surroundings.product, values, List.isEmpty_map]
      split
      · rfl
      · rw [List.map_flatten, List.map_replicate]

theorem eraseIdx_values (items : List Value) (place : Nat) :
    (around.values items).eraseIdx place = around.values (items.eraseIdx place) := by
  unfold values
  induction items generalizing place with
  | nil => rfl
  | cons item rest ih =>
      cases place with
      | zero => rfl
      | succ place => rw [List.map_cons, List.eraseIdx_cons_succ, ih]; rfl

theorem floatOperands_heap (op : BinaryOp) (left right : Value) :
    (around.heap inner).floatOperands op (around.value left) (around.value right) =
      inner.floatOperands op left right := by
  unfold Heap.floatOperands Heap.unsupported
  rw [toFloat?_value, toFloat?_value, typeName_heap, typeName_heap]

theorem floatOperation_heap (op : BinaryOp) (compute : Float → Float → Float)
    (left right : Value) :
    (around.heap inner).floatOperation op compute (around.value left) (around.value right) =
      (inner.floatOperation op compute left right).map around.product := by
  have plain : around.Plain (inner.floatOperation op compute left right) :=
    Plain.floats fun operands => Plain.finite _ _ _ _
  rw [plain]
  unfold Heap.floatOperation
  rw [floatOperands_heap]

theorem add_heap (left right : Value) :
    (around.heap inner).add (around.value left) (around.value right) =
      (inner.add left right).map around.product := by
  have floats := @floatOperation_heap around inner .add (· + ·) left right
  cases left with
  | int a =>
      cases right with
      | int b => exact (Plain.exact .add _).symm
      | _ => exact floats
  | text a =>
      cases right with
      | text b => rfl
      | _ => exact floats
  | list id =>
      simp only [Surroundings.value, Heap.add, list_heap, Except.map, Surroundings.product, values,
        List.map_append, List.map_cons, List.map_nil]
  | _ => exact floats

theorem sub_heap (left right : Value) :
    (around.heap inner).sub (around.value left) (around.value right) =
      (inner.sub left right).map around.product := by
  have floats := @floatOperation_heap around inner .sub (· - ·) left right
  cases left with
  | int a =>
      cases right with
      | int b => exact (Plain.exact .sub _).symm
      | _ => exact floats
  | list id =>
      cases right with
      | int index =>
          unfold Heap.sub
          simp only [Surroundings.value, list_heap]
          rw [values, List.length_map]
          cases place? (inner.list id).length index.toInt with
          | none => rfl
          | some place =>
              exact congrArg (fun items => Except.ok (Product.list items))
                (eraseIdx_values (inner.list id) place)
      | _ => exact floats
  | _ => exact floats

theorem mul_heap (left right : Value) :
    (around.heap inner).mul (around.value left) (around.value right) =
      (inner.mul left right).map around.product := by
  have floats := @floatOperation_heap around inner .mul (· * ·) left right
  cases left with
  | int a =>
      cases right with
      | int b => exact (Plain.exact .mul _).symm
      | text s => exact (Plain.repeatText s a).symm
      | list id =>
          simp only [Surroundings.value, Heap.mul, list_heap]
          exact repeatItems_values (inner.list id) a
      | _ => exact floats
  | text s =>
      cases right with
      | int n => exact (Plain.repeatText s n).symm
      | _ => exact floats
  | list id =>
      cases right with
      | int n =>
          simp only [Surroundings.value, Heap.mul, list_heap]
          exact repeatItems_values (inner.list id) n
      | list other =>
          simp only [Surroundings.value, Heap.mul, list_heap, Except.map, Surroundings.product,
            values, List.map_append]
      | _ => exact floats
  | _ => exact floats

theorem div_heap (left right : Value) :
    (around.heap inner).div (around.value left) (around.value right) =
      (inner.div left right).map around.product := by
  have plain : around.Plain (inner.div left right) :=
    Plain.floats fun operands => Plain.ite rfl (Plain.finite _ _ _ _)
  rw [plain]
  unfold Heap.div
  rw [floatOperands_heap]

theorem floorDiv_heap (left right : Value) :
    (around.heap inner).floorDiv (around.value left) (around.value right) =
      (inner.floorDiv left right).map around.product := by
  have operands := @floatOperands_heap around inner .floorDiv left right
  have plain : around.Plain (inner.floorDiv left right) := by
    unfold Heap.floorDiv
    split
    · exact Plain.ite rfl (Plain.checked _ _)
    · exact Plain.floats fun operands => Plain.ite rfl (Plain.finite _ _ _ _)
  rw [plain]
  cases left <;> cases right <;> simp only [Surroundings.value] at operands ⊢ <;>
    simp only [Heap.floorDiv, operands]

theorem mod_heap (left right : Value) :
    (around.heap inner).mod (around.value left) (around.value right) =
      (inner.mod left right).map around.product := by
  have operands := @floatOperands_heap around inner .mod left right
  have plain : around.Plain (inner.mod left right) := by
    unfold Heap.mod
    split
    · exact Plain.ite rfl rfl
    · exact Plain.floats fun operands => Plain.ite rfl rfl
  rw [plain]
  cases left <;> cases right <;> simp only [Surroundings.value] at operands ⊢ <;>
    simp only [Heap.mod, operands]

theorem pow_heap (left right : Value) :
    (around.heap inner).pow (around.value left) (around.value right) =
      (inner.pow left right).map around.product := by
  have operands := @floatOperands_heap around inner .pow left right
  have plain : around.Plain (inner.pow left right) := by
    unfold Heap.pow
    split
    · exact Plain.ite (Plain.integerPower _ _) (Plain.ite rfl (Plain.floatPower _ _))
    · exact Plain.floats fun operands => Plain.floatPower _ _
  rw [plain]
  cases left <;> cases right <;> simp only [Surroundings.value] at operands ⊢ <;>
    simp only [Heap.pow, operands]

theorem scale_heap (left right : Value) :
    (around.heap inner).scale (around.value left) (around.value right) =
      (inner.scale left right).map around.product := by
  have operands := @floatOperands_heap around inner .scale left right
  have plain : around.Plain (inner.scale left right) := by
    unfold Heap.scale
    split
    · exact Plain.ite (Plain.integerScale _ _) (Plain.finite _ _ _ _)
    · exact Plain.floats fun operands => Plain.finite _ _ _ _
  rw [plain]
  cases left <;> cases right <;> simp only [Surroundings.value] at operands ⊢ <;>
    simp only [Heap.scale, operands]

theorem bitwise_heap (op : BinaryOp) (compute : Int64 → Int64 → Int64) (left right : Value) :
    (around.heap inner).bitwise op compute (around.value left) (around.value right) =
      (inner.bitwise op compute left right).map around.product := by
  have refused : (around.heap inner).unsupported op (around.value left) (around.value right) =
      inner.unsupported op left right := by
    unfold Heap.unsupported
    rw [typeName_heap, typeName_heap]
  cases left with
  | int a =>
      cases right with
      | int b => rfl
      | _ => exact congrArg Except.error refused
  | _ => exact congrArg Except.error refused

theorem binary_heap (op : BinaryOp) (left right : Value) :
    (around.heap inner).binary op (around.value left) (around.value right) =
      (inner.binary op left right).map around.product := by
  cases op with
  | add => exact add_heap left right
  | sub => exact sub_heap left right
  | mul => exact mul_heap left right
  | div => exact div_heap left right
  | floorDiv => exact floorDiv_heap left right
  | mod => exact mod_heap left right
  | pow => exact pow_heap left right
  | scale => exact scale_heap left right
  | bitOr => exact bitwise_heap _ _ left right
  | bitAnd => exact bitwise_heap _ _ left right
  | bitXor => exact bitwise_heap _ _ left right
  | and | or | xor =>
      simp only [Heap.binary, isTruthy_heap]
      rfl

theorem unary_heap (op : UnaryOp) (operand : Value) :
    (around.heap inner).unary op (around.value operand) =
      (inner.unary op operand).map around.value := by
  have type := @typeName_heap around inner operand
  have truth := @isTruthy_heap around inner operand
  cases op with
  | not => simp only [Heap.unary, truth]; rfl
  | neg =>
      cases operand with
      | int n =>
          simp only [Surroundings.value, Heap.unary]
          cases Number.fit? (-n.toInt) <;> rfl
      | float x => rfl
      | _ =>
          simp only [Surroundings.value] at type ⊢
          simp only [Heap.unary, type]
          rfl
  | pos =>
      cases operand with
      | int n => rfl
      | float x => rfl
      | _ =>
          simp only [Surroundings.value] at type ⊢
          simp only [Heap.unary, type]
          rfl
  | bitNot =>
      cases operand with
      | int n => rfl
      | _ =>
          simp only [Surroundings.value] at type ⊢
          simp only [Heap.unary, type]
          rfl

/-! ## Attributes -/

theorem bindTo_value (receiver : ObjectId) (value : Value) :
    bindTo (around.object receiver) (around.value value) = around.value (bindTo receiver value) := by
  cases value <;> rfl

theorem attribute?_heap (id : ObjectId) (name : String) :
    (around.heap inner).attribute? (around.object id) name =
      (inner.attribute? id name).map around.value := by
  unfold Heap.attribute?
  rw [attributes_object_heap, bindings, Bindings.get?_map]
  cases (inner.object id).attributes.get? name with
  | none => rfl
  | some value => exact congrArg some (bindTo_value id value)

theorem bindings_insertAll (bound more : Bindings Value) :
    around.bindings (bound.insertAll more.entries) =
      (around.bindings bound).insertAll (around.bindings more).entries :=
  Bindings.map_insertAll around.value bound more.entries

theorem instanceAttributes_heap (definition : Class) :
    (around.heap inner).instanceAttributes (around.placeClass definition) =
      around.bindings (inner.instanceAttributes definition) := by
  have inherited : ∀ (ancestors : List ClassId) (bound : Bindings Value),
      (ancestors.map around.constructor).foldl
        (fun bound ancestor =>
          bound.insertAll ((around.heap inner).constructor ancestor).members.entries)
        (around.bindings bound) =
      around.bindings (ancestors.foldl
        (fun bound ancestor => bound.insertAll (inner.constructor ancestor).members.entries)
        bound) := by
    intro ancestors
    induction ancestors with
    | nil => exact fun bound => rfl
    | cons ancestor rest ih =>
        intro bound
        rw [List.map_cons, List.foldl_cons, List.foldl_cons, ← ih, bindings_insertAll,
          constructor_heap]
        rfl
  have start := inherited definition.ancestors .empty
  simp only [Heap.instanceAttributes, bindings_insertAll]
  rw [← start]
  rfl

theorem attributes_heap (value : Value) :
    (around.heap inner).attributes (around.value value) =
      around.bindings (inner.attributes value) := by
  cases value with
  | object id =>
      simp only [Surroundings.value, Heap.attributes, attributes_object_heap]
      refine Bindings.ext_entries ?_
      simp only [bindings, Bindings.map, List.map_map]
      refine List.map_congr_left fun entry _ => ?_
      exact congrArg (Prod.mk entry.1) (bindTo_value id entry.2)
  | library id =>
      simp only [Surroundings.value, Heap.attributes, library_heap]
      rfl
  | constructor id =>
      simp only [Surroundings.value, Heap.attributes, constructor_heap]
      exact instanceAttributes_heap (inner.constructor id)
  | _ => rfl

theorem extendClass_heap (name : String) (members : Bindings Value) (parent : Option ClassId) :
    (around.heap inner).extendClass name (around.bindings members)
        (parent.map around.constructor) =
      around.placeClass (inner.extendClass name members parent) := by
  cases parent with
  | none => rfl
  | some id =>
      simp only [Heap.extendClass, Option.map_some, constructor_heap, placeClass,
        List.map_append, List.map_cons, List.map_nil]

/-! ## Parameters -/

/-- The arguments of a function of the language inside the surroundings. -/
def arguments (around : Surroundings) (given : Arguments) : Arguments :=
  ⟨around.values given.slots, around.values given.extras⟩

/-- Arguments as they are given in a call. -/
def given (around : Surroundings) (given : List (Option Value)) : List (Option Value) :=
  given.map (Option.map around.value)

theorem requiredValues_given (function : String) (parameters : List String)
    (given : List (Option Value)) :
    requiredValues function parameters (around.given given) =
      (requiredValues function parameters given).map around.values := by
  induction parameters generalizing given with
  | nil => rfl
  | cons parameter parameters ih =>
      match given with
      | some value :: rest =>
          have later := ih rest
          unfold Surroundings.given at later
          simp only [Surroundings.given, List.map_cons, Option.map_some, requiredValues, later]
          cases requiredValues function parameters rest <;> rfl
      | none :: rest => rfl
      | [] => rfl

theorem optionalValues_given (parameters : List (String × Value)) (given : List (Option Value)) :
    optionalValues (parameters.map fun parameter => (parameter.1, around.value parameter.2))
        (around.given given) =
      around.values (optionalValues parameters given) := by
  induction parameters generalizing given with
  | nil => rfl
  | cons parameter parameters ih =>
      have later := ih given.tail
      match given with
      | some value :: rest => exact congrArg (around.value value :: ·) later
      | none :: rest => exact congrArg (around.value parameter.2 :: ·) later
      | [] => exact congrArg (around.value parameter.2 :: ·) later

theorem most?_builtin (builtin : Builtin) :
    (around.placeBuiltin builtin).most? = builtin.most? := by
  unfold Builtin.most? placeBuiltin
  rw [List.length_map]

theorem bind_builtin (builtin : Builtin) (given : List (Option Value)) :
    (around.placeBuiltin builtin).bind (around.given given) =
      (builtin.bind given).map around.arguments := by
  have accepts : (around.placeBuiltin builtin).accepts given.length =
      builtin.accepts given.length := by
    unfold Builtin.accepts
    rw [most?_builtin]
    rfl
  have count : (around.given given).length = given.length := List.length_map _
  have later : ∀ declared, (around.given given).drop declared =
      around.given (given.drop declared) := fun declared => List.map_drop.symm
  have extras : ∀ declared, (around.given (given.drop declared)).map (·.getD .nothing) =
      around.values ((given.drop declared).map (·.getD .nothing)) := by
    intro declared
    unfold Surroundings.given values
    rw [List.map_map, List.map_map]
    refine List.map_congr_left fun argument _ => ?_
    cases argument <;> rfl
  have declared : (around.placeBuiltin builtin).optional.length = builtin.optional.length :=
    List.length_map _
  unfold Builtin.bind
  rw [count, accepts, most?_builtin]
  split
  · simp only [declared, later, extras]
    simp only [placeBuiltin, requiredValues_given, optionalValues_given]
    cases requiredValues builtin.name builtin.required given with
    | error fault => rfl
    | ok required =>
        simp only [Except.map, Surroundings.arguments, values, List.map_append]
  · rfl

theorem suggest?_heap (stocked : around.Stocked inner) (scope : Scope) (name : String) :
    (around.heap inner).suggest? (around.scope scope) name = inner.suggest? scope name := by
  unfold Heap.suggest?
  rw [visibleNames_heap stocked]

/-! ## Modules of the language -/

theorem Stocked.newNative? (stocked : around.Stocked inner) {name : String}
    {made : Bindings Value × Heap} (found : inner.newNative? name = some made) :
    around.Stocked made.2 := by
  unfold Heap.newNative? at found
  split at found
  · cases found
    exact stocked.installAll _ _
  · cases found

theorem newNative?_heap (stocked : around.Stocked inner) (name : String) :
    (around.heap inner).newNative? name =
      (inner.newNative? name).map fun made => (around.bindings made.1, around.heap made.2) := by
  have plain : ∀ builtin ∈ mathFunctions, around.placeBuiltin builtin = builtin := by
    simp [mathFunctions, placeBuiltin]
  have constants : around.bindings (.ofList mathConstants) = .ofList mathConstants :=
    Bindings.map_insertAll around.value .empty mathConstants
  have installed := installAll_heap stocked mathFunctions plain (.ofList mathConstants)
  unfold Heap.newNative?
  split
  · rw [constants] at installed
    exact congrArg some installed
  · rfl

end Surroundings

end Data
end Scripting
