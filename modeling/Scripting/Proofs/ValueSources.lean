import Scripting.Data.Arithmetic
import Scripting.Data.Conversion
import Scripting.Data.Parameters

namespace Scripting
namespace Data

/-!
Where values come from.

Operations on values make numbers and texts of their own.  Whatever else they give was given to
them, stands in a list, or is the default of a parameter.  So what is true of numbers, of texts
and of all of these is true of every value that comes out of an operation.
-/

/-- Numbers, texts and the absence of a value. -/
def Value.IsPlain : Value → Prop
  | .nothing | .int _ | .float _ | .text _ => True
  | _ => False

/-- It is one of the lists on a heap that is repeated too often. -/
def Overgrowth.Arises (heap : Heap) (overgrowth : Overgrowth) : Prop :=
  ∃ id : ListId, (heap.list id).length = overgrowth.length

/--
An operator gives a plain value, or the elements of a new list, which are of a kind.  Only a
list that is there can outgrow the memory.
-/
def Product.All (heap : Heap) (good : Value → Prop) : Product → Prop
  | .value made => made.IsPlain
  | .list items => ∀ item ∈ items, good item
  | .overgrown overgrowth => overgrowth.Arises heap

/-- The values that a function of the language is run with are of a kind. -/
def Arguments.All (good : Value → Prop) (arguments : Arguments) : Prop :=
  (∀ value ∈ arguments.slots, good value) ∧ ∀ value ∈ arguments.extras, good value

/-- The result of an operation, if there is one, is of a kind. -/
def Yields {α : Type} (good : α → Prop) : Except Fault α → Prop
  | .ok result => good result
  | .error _ => True

/-! ## Stores -/

section Stores

variable {α : Type} {store : Array α} {good : α → Prop}

theorem forall_getD (good : α → Prop) {spare : α} (all : ∀ thing ∈ store, good thing)
    (otherwise : good spare) (index : Nat) : good (store.getD index spare) := by
  rw [Array.getD_eq_getD_getElem?]
  cases found : store[index]? with
  | none => exact otherwise
  | some thing => exact all thing (Array.mem_of_getElem? found)

theorem forall_mem_push (all : ∀ thing ∈ store, good thing) {added : α} (last : good added) :
    ∀ thing ∈ store.push added, good thing := by
  intro thing member
  rcases Array.mem_push.mp member with old | rfl
  · exact all thing old
  · exact last

theorem forall_mem_modify (all : ∀ thing ∈ store, good thing) {change : α → α}
    (kept : ∀ thing, good thing → good (change thing)) (index : Nat) :
    ∀ thing ∈ store.modify index change, good thing := by
  intro thing member
  obtain ⟨place, found⟩ := Array.mem_iff_getElem?.mp member
  rw [Array.getElem?_modify] at found
  split at found
  · obtain ⟨old, there, rfl⟩ := Option.map_eq_some_iff.mp found
    exact kept old (all old (Array.mem_of_getElem? there))
  · exact all thing (Array.mem_of_getElem? found)

theorem forall_mem_setIfInBounds (all : ∀ thing ∈ store, good thing) {other : α}
    (set : good other) (index : Nat) : ∀ thing ∈ store.setIfInBounds index other, good thing := by
  intro thing member
  obtain ⟨place, found⟩ := Array.mem_iff_getElem?.mp member
  rw [Array.getElem?_setIfInBounds] at found
  split at found
  · split at found
    · cases found
      exact set
    · cases found
  · exact all thing (Array.mem_of_getElem? found)

end Stores

/-! ## Operations -/

namespace Yields

section Results

variable {α β : Type} {good : α → Prop}

theorem any (result : Except Fault α) : Yields (fun _ => True) result := by
  cases result <;> exact trivial

theorem mono {weaker : α → Prop} {result : Except Fault α} (yields : Yields good result)
    (implies : ∀ value, good value → weaker value) : Yields weaker result := by
  cases result with
  | error fault => exact trivial
  | ok value => exact implies value yields

theorem ite {condition : Prop} [Decidable condition] {yes no : Except Fault α}
    (positive : Yields good yes) (negative : Yields good no) :
    Yields good (if condition then yes else no) := by
  split
  · exact positive
  · exact negative

theorem bind {first : Except Fault β} {next : β → Except Fault α}
    (rest : ∀ value, Yields good (next value)) : Yields good (first >>= next) := by
  cases first with
  | error fault => exact trivial
  | ok value => exact rest value

end Results

variable {heap : Heap} {good : Value → Prop} (plain : ∀ value : Value, value.IsPlain → good value)

theorem checked (op : Program.BinaryOp) (word : Option Int64) :
    Yields (Product.All heap good) (checked op word) := by
  cases word <;> exact trivial

theorem exact (op : Program.BinaryOp) (n : Int) : Yields (Product.All heap good) (exact op n) :=
  checked op _

theorem finite (op : Program.BinaryOp) (x y result : Float) :
    Yields (Product.All heap good) (finite op x y result) :=
  ite trivial trivial

theorem integerPower (base exponent : Int) :
    Yields (Product.All heap good) (integerPower base exponent) :=
  ite (exact _ _) (ite (exact _ _) (checked _ _))

theorem integerScale (base exponent : Int) :
    Yields (Product.All heap good) (integerScale base exponent) :=
  checked _ _

theorem floatPower (x y : Float) : Yields (Product.All heap good) (Heap.floatPower x y) :=
  ite trivial (ite trivial (finite _ _ _ _))

theorem floatOperation (op : Program.BinaryOp) (compute : Float → Float → Float)
    (left right : Value) : Yields (Product.All heap good) (heap.floatOperation op compute left right) :=
  bind fun _ => finite _ _ _ _

theorem repeatText (text : String) (times : Int64) :
    Yields (Product.All heap good) (repeatText text times) := by
  unfold Data.repeatText
  cases repetitions text.utf8ByteSize times <;> exact trivial

theorem repeatItems (id : ListId) (all : ∀ item ∈ heap.list id, good item) (times : Int64) :
    Yields (Product.All heap good) (repeatItems (heap.list id) times) := by
  unfold Data.repeatItems
  cases repetitions (heap.list id).length times with
  | error fault => exact trivial
  | ok number =>
      by_cases large : sizeLimit < (heap.list id).length * number * elementSize
      · simp only [Except.map, dif_pos large]
        exact ⟨id, rfl⟩
      simp only [Except.map, dif_neg large]
      change ∀ item ∈ (if (heap.list id).isEmpty then []
        else (List.replicate number (heap.list id)).flatten), good item
      split
      · nofun
      · intro value member
        obtain ⟨copy, listed, here⟩ := List.mem_flatten.mp member
        rw [List.eq_of_mem_replicate listed] at here
        exact all value here

variable {left right : Value}
  (lists : ∀ id : ListId, ∀ item ∈ heap.list id, good item)

include lists in
theorem add (given : good right) : Yields (Product.All heap good) (heap.add left right) := by
  unfold Heap.add
  split
  · exact exact _ _
  · exact trivial
  · exact List.forall_mem_append.mpr ⟨lists _, List.forall_mem_singleton.mpr given⟩
  · exact floatOperation _ _ _ _

include lists in
theorem sub : Yields (Product.All heap good) (heap.sub left right) := by
  unfold Heap.sub
  split
  · exact exact _ _
  · simp only
    split
    · exact fun item member => lists _ item (List.mem_of_mem_eraseIdx member)
    · exact trivial
  · exact floatOperation _ _ _ _

include lists in
theorem mul : Yields (Product.All heap good) (heap.mul left right) := by
  unfold Heap.mul
  split
  · exact exact _ _
  · exact repeatText _ _
  · exact repeatText _ _
  · exact List.forall_mem_append.mpr ⟨lists _, lists _⟩
  · exact repeatItems _ (lists _) _
  · exact repeatItems _ (lists _) _
  · exact floatOperation _ _ _ _

theorem floorDiv : Yields (Product.All heap good) (heap.floorDiv left right) := by
  unfold Heap.floorDiv
  split
  · exact ite trivial (checked _ _)
  · exact bind fun _ => ite trivial (finite _ _ _ _)

theorem mod : Yields (Product.All heap good) (heap.mod left right) := by
  unfold Heap.mod
  split
  · exact ite trivial trivial
  · exact bind fun _ => ite trivial trivial

theorem pow : Yields (Product.All heap good) (heap.pow left right) := by
  unfold Heap.pow
  split
  · exact ite (integerPower _ _) (ite trivial (floatPower _ _))
  · exact bind fun _ => floatPower _ _

theorem scale : Yields (Product.All heap good) (heap.scale left right) := by
  unfold Heap.scale
  split
  · exact ite (integerScale _ _) (finite _ _ _ _)
  · exact bind fun _ => finite _ _ _ _

theorem bitwise (op : Program.BinaryOp) (compute : Int64 → Int64 → Int64) :
    Yields (Product.All heap good) (heap.bitwise op compute left right) := by
  unfold Heap.bitwise
  split <;> exact trivial

include lists in
/-- An operator gives plain values, or a list of elements of its operands and its right operand. -/
theorem binary_all (op : Program.BinaryOp) (given : good right) :
    Yields (Product.All heap good) (heap.binary op left right) := by
  cases op with
  | add => exact add lists given
  | sub => exact sub lists
  | mul => exact mul lists
  | div => exact bind fun _ => ite trivial (finite _ _ _ _)
  | floorDiv => exact floorDiv
  | mod => exact mod
  | pow => exact pow
  | scale => exact scale
  | bitOr | bitAnd | bitXor => exact bitwise _ _
  | and | or | xor => exact trivial

section Values

include plain

theorem unary_all (op : Program.UnaryOp) (operand : Value) :
    Yields good (heap.unary op operand) := by
  unfold Heap.unary
  split
  · exact plain (.ofBool _) trivial
  · split
    · exact plain (.int _) trivial
    · exact trivial
  · exact plain (.float _) trivial
  · exact plain (.int _) trivial
  · exact plain (.float _) trivial
  · exact plain (.int _) trivial
  · exact trivial

theorem characters_all (text : String) : ∀ item ∈ text.toList.map ofChar, good item := by
  intro value member
  obtain ⟨character, -, rfl⟩ := List.mem_map.mp member
  exact plain (.text _) trivial

include lists in
theorem items_all (value : Value) :
    Yields (fun items => ∀ item ∈ items, good item) (heap.items value) := by
  cases value with
  | list id => exact lists id
  | text s => exact characters_all plain s
  | _ => exact trivial

include lists in
theorem toItems_all (value : Value) :
    Yields (fun items => ∀ item ∈ items, good item) (heap.toItems value) := by
  cases value with
  | list id => exact lists id
  | text s => exact characters_all plain s
  | _ => exact trivial

include lists in
theorem element_all (value index : Value) : Yields good (heap.element value index) := by
  have chosen : ∀ {items : List Value} {place : Int} {item : Value}, (∀ item ∈ items, good item) →
      (place? items.length place).bind (fun place => items[place]?) = some item → good item := by
    intro items place item all found
    obtain ⟨spot, -, there⟩ := Option.bind_eq_some_iff.mp found
    exact all item (List.mem_of_getElem? there)
  unfold Heap.element
  split
  · simp only
    split
    · split
      · exact chosen (lists _) ‹_›
      · exact trivial
    · split
      · exact chosen (characters_all plain _) ‹_›
      · exact trivial
    · exact trivial
  · exact trivial

theorem toInt_all (value : Value) : Yields good (heap.toInt value) := by
  unfold Heap.toInt
  split
  · exact plain (.int _) trivial
  · split
    · exact plain (.int _) trivial
    · exact trivial
  · split
    · exact plain (.int _) trivial
    · exact trivial
  · exact trivial

theorem toFloat_all (value : Value) : Yields good (heap.toFloat value) := by
  unfold Heap.toFloat
  split
  · exact plain (.float _) trivial
  · exact plain (.float _) trivial
  · split
    · exact plain (.float _) trivial
    · exact trivial
  · exact trivial

end Values

end Yields

/-! ## Arguments -/

section Arguments

variable {good : Value → Prop}

theorem yields_requiredValues (function : String) (parameters : List String)
    {arguments : List (Option Value)}
    (given : ∀ argument ∈ arguments, ∀ value ∈ argument, good value) :
    Yields (fun values => ∀ value ∈ values, good value)
      (requiredValues function parameters arguments) := by
  induction parameters generalizing arguments with
  | nil => exact List.forall_mem_nil _
  | cons parameter rest ih =>
      match arguments, given with
      | some value :: others, given =>
          obtain ⟨first, given⟩ := List.forall_mem_cons.mp given
          have later := ih given
          unfold requiredValues
          cases found : requiredValues function rest others with
          | error fault => exact trivial
          | ok values =>
              rw [found] at later
              exact List.forall_mem_cons.mpr ⟨first value rfl, later⟩
      | none :: others, _ => exact trivial
      | [], _ => exact trivial

theorem optionalValues_all {parameters : List (String × Value)}
    (defaults : ∀ parameter ∈ parameters, good parameter.2) {arguments : List (Option Value)}
    (given : ∀ argument ∈ arguments, ∀ value ∈ argument, good value) :
    ∀ value ∈ optionalValues parameters arguments, good value := by
  induction parameters generalizing arguments with
  | nil => exact List.forall_mem_nil _
  | cons parameter rest ih =>
      obtain ⟨first, others⟩ := List.forall_mem_cons.mp defaults
      refine List.forall_mem_cons.mpr ⟨?_, ih others fun argument member =>
        given argument (List.mem_of_mem_tail member)⟩
      match arguments, given with
      | some value :: _, given => exact given _ List.mem_cons_self value rfl
      | none :: _, _ => exact first
      | [], _ => exact first

/-- Arguments are given, or they are the defaults of their parameters. -/
theorem Builtin.bind_all (plain : ∀ value : Value, value.IsPlain → good value) {builtin : Builtin}
    (defaults : ∀ parameter ∈ builtin.optional, good parameter.2)
    {arguments : List (Option Value)}
    (given : ∀ argument ∈ arguments, ∀ value ∈ argument, good value) :
    Yields (Arguments.All good) (builtin.bind arguments) := by
  unfold Builtin.bind
  refine .ite ?_ trivial
  have required := yields_requiredValues builtin.name builtin.required given
  simp only
  cases found : requiredValues builtin.name builtin.required arguments with
  | error fault => exact trivial
  | ok values =>
      rw [found] at required
      have optional := optionalValues_all defaults fun argument member =>
        given argument (List.drop_subset builtin.required.length arguments member)
      refine ⟨List.forall_mem_append.mpr ⟨required, optional⟩, ?_⟩
      intro value member
      obtain ⟨argument, listed, rfl⟩ := List.mem_map.mp member
      cases argument with
      | none => exact plain .nothing trivial
      | some value => exact given _ (List.drop_subset _ _ listed) value rfl

end Arguments

end Data
end Scripting
