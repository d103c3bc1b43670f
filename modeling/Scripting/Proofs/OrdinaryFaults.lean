import Scripting.Data.Arithmetic
import Scripting.Data.Comparison
import Scripting.Data.Conversion
import Scripting.Data.Parameters

namespace Scripting
namespace Data

/-!
Faults that operations on values have.

Some faults are about control: a return outside of a function, or a jump that no loop
answers.  No operation on values ends in one of these.
-/

open Program (BinaryOp CompareOp UnaryOp)

/-- A fault of a return or a jump that nothing asks for. -/
def Fault.isStray : Fault → Bool
  | .returnOutside | .jumpOutside _ | .labelUnmatched _ => true
  | _ => false

/-- What is said of returns and jumps that nothing asks for. -/
def strayMessages : List String :=
  ["'return' outside of a function",
    "'break' outside of a loop", "'continue' outside of a loop",
    "'break' does not match any enclosing loop label",
    "'continue' does not match any enclosing loop label"]

theorem head?_toList_append {text : String} {first : Char} (begins : text.toList.head? = some first)
    (rest : String) : (text ++ rest).toList.head? = some first := by
  rw [String.toList_append, List.head?_append, begins]
  rfl

theorem getLast?_toList_append {text : String} {last : Char} (ends : text.toList.getLast? = some last)
    (before : String) : (before ++ text).toList.getLast? = some last := by
  rw [String.toList_append, List.getLast?_append, ends]
  rfl

/--
The faults about control are those run-time errors that say so.  Their messages begin with a
quote, and of the others only one does, which ends with a dot.
-/
theorem isStray_iff (fault : Fault) :
    fault.isStray = true ↔ fault.kind = .runTime ∧ fault.message ∈ strayMessages := by
  constructor
  · intro stray
    cases fault with
    | returnOutside => exact ⟨rfl, by decide⟩
    | jumpOutside jump => cases jump <;> exact ⟨rfl, by decide⟩
    | labelUnmatched jump => cases jump <;> exact ⟨rfl, by decide⟩
    | _ => cases stray
  · rintro ⟨kind, said⟩
    have begins : ∀ text ∈ strayMessages, text.toList.head? = some '\'' := by decide
    have ends : ∀ text ∈ strayMessages, text.toList.getLast? ≠ some '.' := by decide
    cases fault with
    | returnOutside => rfl
    | jumpOutside jump => rfl
    | labelUnmatched jump => rfl
    | invalidLiteral target text =>
        have other : (Fault.invalidLiteral target text).message.toList.head? = some 'i' := by
          repeat apply head?_toList_append
          rfl
        exact absurd ((begins _ said).symm.trans other) (by decide)
    | assignmentCount values targets =>
        have other : (Fault.assignmentCount values targets).message.toList.head? = some 'c' := by
          repeat apply head?_toList_append
          rfl
        exact absurd ((begins _ said).symm.trans other) (by decide)
    | loadFailure name details =>
        have other : (Fault.loadFailure name details).message.toList.head? = some 'f' := by
          repeat apply head?_toList_append
          rfl
        exact absurd ((begins _ said).symm.trans other) (by decide)
    | notAModule name => exact absurd (getLast?_toList_append rfl _) (ends _ said)
    | _ => cases kind

/-- If there is a fault, it is not about control. -/
def Ordinary {α : Type} (result : Except Fault α) : Prop :=
  ∀ fault, result = .error fault → fault.isStray = false

namespace Ordinary

variable {α β : Type}

theorem ok (value : α) : Ordinary (.ok value) :=
  nofun

theorem error {fault : Fault} (ordinary : fault.isStray = false) :
    Ordinary (.error fault : Except Fault α) := by
  intro _ same
  cases same
  exact ordinary

theorem bind {result : Except Fault α} {next : α → Except Fault β} (first : Ordinary result)
    (rest : ∀ value, Ordinary (next value)) : Ordinary (result >>= next) := by
  cases result with
  | ok value => exact rest value
  | error fault => exact error (first fault rfl)

theorem map {result : Except Fault α} (ordinary : Ordinary result) (f : α → β) :
    Ordinary (result.map f) := by
  cases result with
  | ok value => exact ok (f value)
  | error fault => exact error (ordinary fault rfl)

theorem ite {condition : Prop} [Decidable condition] {yes no : Except Fault α}
    (positive : Ordinary yes) (negative : Ordinary no) :
    Ordinary (if condition then yes else no) := by
  by_cases decided : condition
  · rw [if_pos decided]
    exact positive
  · rw [if_neg decided]
    exact negative

/-! ## Operators -/

theorem checked (op : BinaryOp) (word : Option Int64) : Ordinary (checked op word) := by
  cases word with
  | some word => exact ok _
  | none => exact error rfl

theorem exact (op : BinaryOp) (n : Int) : Ordinary (exact op n) :=
  checked op (Number.fit? n)

theorem finite (op : BinaryOp) (x y result : Float) : Ordinary (finite op x y result) :=
  ite (error rfl) (ok _)

theorem repetitions (size : Nat) (count : Int64) : Ordinary (repetitions size count) :=
  ite (ok _) (error rfl)

theorem integerPower (base exponent : Int) : Ordinary (integerPower base exponent) :=
  ite (exact _ _) (ite (exact _ _) (checked _ _))

theorem integerScale (base exponent : Int) : Ordinary (integerScale base exponent) :=
  checked _ _

theorem floatPower (x y : Float) : Ordinary (Heap.floatPower x y) :=
  ite (error rfl) (ite (error rfl) (finite _ _ _ _))

variable (heap : Heap)

/-- An operation on floating-point numbers fails for anything else. -/
theorem floats (op : BinaryOp) (left right : Value) {next : Float × Float → Except Fault α}
    (rest : ∀ pair, Ordinary (next pair)) :
    Ordinary (heap.floatOperands op left right >>= next) := by
  refine bind ?_ rest
  unfold Heap.floatOperands
  split
  · exact ok _
  · exact error rfl

theorem add (left right : Value) : Ordinary (heap.add left right) := by
  unfold Heap.add
  split
  · exact exact _ _
  · exact ok _
  · exact ok _
  · exact floats heap _ _ _ fun _ => finite _ _ _ _

theorem sub (left right : Value) : Ordinary (heap.sub left right) := by
  unfold Heap.sub
  split
  · exact exact _ _
  · simp only
    split
    · exact ok _
    · exact error rfl
  · exact floats heap _ _ _ fun _ => finite _ _ _ _

theorem mul (left right : Value) : Ordinary (heap.mul left right) := by
  unfold Heap.mul
  split
  · exact exact _ _
  · exact (repetitions _ _).map _
  · exact (repetitions _ _).map _
  · exact ok _
  · exact (repetitions _ _).map _
  · exact (repetitions _ _).map _
  · exact floats heap _ _ _ fun _ => finite _ _ _ _

theorem div (left right : Value) : Ordinary (heap.div left right) :=
  floats heap _ _ _ fun _ => ite (error rfl) (finite _ _ _ _)

theorem floorDiv (left right : Value) : Ordinary (heap.floorDiv left right) := by
  unfold Heap.floorDiv
  split
  · exact ite (error rfl) (checked _ _)
  · exact floats heap _ _ _ fun _ => ite (error rfl) (finite _ _ _ _)

theorem mod (left right : Value) : Ordinary (heap.mod left right) := by
  unfold Heap.mod
  split
  · exact ite (error rfl) (ok _)
  · exact floats heap _ _ _ fun _ => ite (error rfl) (ok _)

theorem pow (left right : Value) : Ordinary (heap.pow left right) := by
  unfold Heap.pow
  split
  · exact ite (integerPower _ _) (ite (error rfl) (floatPower _ _))
  · exact floats heap _ _ _ fun _ => floatPower _ _

theorem scale (left right : Value) : Ordinary (heap.scale left right) := by
  unfold Heap.scale
  split
  · exact ite (integerScale _ _) (finite _ _ _ _)
  · exact floats heap _ _ _ fun _ => finite _ _ _ _

theorem bitwise (op : BinaryOp) (compute : Int64 → Int64 → Int64) (left right : Value) :
    Ordinary (heap.bitwise op compute left right) := by
  unfold Heap.bitwise
  split
  · exact ok _
  · exact error rfl

theorem binary (op : BinaryOp) (left right : Value) : Ordinary (heap.binary op left right) := by
  cases op with
  | add => exact add heap left right
  | sub => exact sub heap left right
  | mul => exact mul heap left right
  | div => exact div heap left right
  | floorDiv => exact floorDiv heap left right
  | mod => exact mod heap left right
  | pow => exact pow heap left right
  | scale => exact scale heap left right
  | bitOr | bitAnd | bitXor => exact bitwise heap _ _ left right
  | and | or | xor => exact ok _

theorem unary (op : UnaryOp) (operand : Value) : Ordinary (heap.unary op operand) := by
  unfold Heap.unary
  split
  · exact ok _
  · split
    · exact ok _
    · exact error rfl
  · exact ok _
  · exact ok _
  · exact ok _
  · exact ok _
  · exact error rfl

theorem compare (op : CompareOp) (left right : Value) : Ordinary (heap.compare op left right) := by
  have order : Ordinary (heap.order? op left right) := by
    unfold Heap.order?
    split
    · exact ok _
    · exact ok _
    · split
      · exact ok _
      · exact error rfl
  cases op with
  | eq | ne => exact ok _
  | _ => exact order.map _

/-! ## Conversions and positions -/

theorem toInt (value : Value) : Ordinary (heap.toInt value) := by
  unfold Heap.toInt
  split
  · exact ok _
  · split
    · exact ok _
    · exact error rfl
  · split
    · exact ok _
    · exact error rfl
  · exact error rfl

theorem toFloat (value : Value) : Ordinary (heap.toFloat value) := by
  unfold Heap.toFloat
  split
  · exact ok _
  · exact ok _
  · split
    · exact ok _
    · exact error rfl
  · exact error rfl

theorem toItems (value : Value) : Ordinary (heap.toItems value) := by
  unfold Heap.toItems
  split
  · exact ok _
  · exact ok _
  · exact error rfl

theorem items (value : Value) : Ordinary (heap.items value) := by
  unfold Heap.items
  split
  · exact ok _
  · exact ok _
  · exact error rfl

theorem length (value : Value) : Ordinary (heap.length value) := by
  unfold Heap.length
  split
  · exact ok _
  · exact ok _
  · exact error rfl

theorem element (value index : Value) : Ordinary (heap.element value index) := by
  unfold Heap.element
  split
  · simp only
    split
    · split
      · exact ok _
      · exact error rfl
    · split
      · exact ok _
      · exact error rfl
    · exact error rfl
  · exact error rfl

/-! ## Parameters -/

theorem requiredValues (function : String) (parameters : List String)
    (arguments : List (Option Value)) :
    Ordinary (requiredValues function parameters arguments) := by
  induction parameters generalizing arguments with
  | nil => exact ok _
  | cons parameter parameters ih =>
      match arguments with
      | some value :: arguments => exact (ih arguments).map _
      | none :: arguments => exact error rfl
      | [] => exact error rfl

theorem bindBuiltin (builtin : Builtin) (arguments : List (Option Value)) :
    Ordinary (builtin.bind arguments) :=
  ite ((requiredValues _ _ _).map _) (error rfl)

end Ordinary

end Data
end Scripting
