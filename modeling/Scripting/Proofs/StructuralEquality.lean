import Mathlib.Data.List.Forall2
import Mathlib.Logic.Relation
import Scripting.Proofs.PlainData

namespace Scripting
namespace Data

/-!
Equality of values is equality of structure.

Lists are shared handles, and two handles may stand for lists of the same elements.  Comparison
takes equal handles for equal lists without looking at the elements, and follows the elements
otherwise, from outside to inside.  So it is an equivalence that depends on structure only if the
shortcut gives no other answer than the elements do.

It does so as long as no list contains itself and no floating-point number is contained: then
every value is equal to itself by its structure alone, and no list is met again inside itself.
-/

theorem each_comp {α β γ : Type} {related : α → β → Prop} {next : β → γ → Prop}
    {through : α → γ → Prop} {first : List α} {second : List β} {third : List γ}
    (each : List.Forall₂ related first second) (again : List.Forall₂ next second third)
    (compose : ∀ {one two three}, related one two → next two three → through one three) :
    List.Forall₂ through first third := by
  induction each generalizing third with
  | nil =>
      cases again
      exact .nil
  | cons pair _ ih =>
      cases again with
      | cons further later => exact .cons (compose pair further) (ih later)

namespace Heap

/-- An element of a list. -/
def Element (heap : Heap) (value item : Value) : Prop :=
  ∃ id, value = .list id ∧ item ∈ heap.list id

/-- An element of a list, an element of one of its elements, and so on. -/
def Contains (heap : Heap) : Value → Value → Prop :=
  Relation.TransGen heap.Element

/-- The value itself or one that it contains. -/
def Reaches (heap : Heap) : Value → Value → Prop :=
  Relation.ReflTransGen heap.Element

/-- A value with no floating-point number and no list that contains itself anywhere in it. -/
structure Settled (heap : Heap) (value : Value) : Prop where
  exact : ∀ x, ¬ heap.Reaches value (.float x)
  loopFree : ∀ inner, heap.Reaches value inner → ¬ heap.Contains inner inner

/-- The same value, or lists of the same length whose elements are alike one by one. -/
inductive Alike (heap : Heap) : Value → Value → Prop
  | same {value : Value} (atom : ∀ id, value ≠ .list id) : heap.Alike value value
  | lists {left right : ListId}
      (each : List.Forall₂ heap.Alike (heap.list left) (heap.list right)) :
      heap.Alike (.list left) (.list right)

/-- The comparison of two values says that they are equal. -/
def Equal (heap : Heap) (left right : Value) : Prop :=
  heap.compare .eq left right = .ok true

variable {heap : Heap} {value left right third : Value}

/-! ## Values without floats and loops -/

namespace Settled

theorem not_float (settled : heap.Settled value) (x : Float) : value ≠ .float x := by
  rintro rfl
  exact settled.exact x .refl

theorem element (settled : heap.Settled value) {item : Value} (element : heap.Element value item) :
    heap.Settled item where
  exact x reached := settled.exact x (.head element reached)
  loopFree inner reached := settled.loopFree inner (.head element reached)

theorem item {id : ListId} {item : Value} (settled : heap.Settled (.list id))
    (member : item ∈ heap.list id) : heap.Settled item :=
  settled.element ⟨id, rfl, member⟩

end Settled

/-- In a heap whose lists hold no floats and only earlier lists, nothing contains itself. -/
theorem settled_of_earlier
    (earlier : ∀ id, ∀ item ∈ heap.list id, (∀ x, item ≠ .float x) ∧
      ∀ other, item = .list other → other.index < id.index)
    (exact : ∀ x, value ≠ .float x) : heap.Settled value where
  exact x reached := by
    rcases Relation.ReflTransGen.cases_tail reached with same | ⟨_, -, id, rfl, member⟩
    · exact exact x same.symm
    · exact (earlier id _ member).1 x rfl
  loopFree inner _ loop := by
    -- Along elements, the places of lists become less and less.
    have less : ∀ {outer place}, heap.Contains outer (.list place) →
        ∃ id, outer = .list id ∧ place.index < id.index := by
      intro outer place contains
      induction contains using Relation.TransGen.head_induction_on with
      | single element =>
          rcases element with ⟨id, rfl, member⟩
          exact ⟨id, rfl, (earlier id _ member).2 place rfl⟩
      | head element _ ih =>
          rcases element with ⟨id, rfl, member⟩
          rcases ih with ⟨between, rfl, further⟩
          exact ⟨id, rfl, Nat.lt_trans further ((earlier id _ member).2 between rfl)⟩
    rcases Relation.TransGen.head'_iff.mp loop with ⟨_, ⟨id, rfl, -⟩, -⟩
    rcases less loop with ⟨_, same, further⟩
    cases same
    exact Nat.lt_irrefl _ further

/-! ## Structure -/

namespace Alike

@[elab_as_elim, induction_eliminator]
theorem byParts {motive : ∀ left right, heap.Alike left right → Prop}
    (same : ∀ {value : Value} (atom : ∀ id, value ≠ .list id), motive value value (.same atom))
    (lists : ∀ {left right : ListId}
      (each : List.Forall₂ heap.Alike (heap.list left) (heap.list right)),
      List.Forall₂ (fun one two => ∃ alike, motive one two alike) (heap.list left)
        (heap.list right) → motive (.list left) (.list right) (.lists each))
    {left right : Value} (alike : heap.Alike left right) : motive left right alike :=
  @Alike.rec heap motive
    (fun ones twos _ => List.Forall₂ (fun one two => ∃ alike, motive one two alike) ones twos)
    same lists .nil (fun alike _ holds each => .cons ⟨alike, holds⟩ each) left right alike

theorem symm (alike : heap.Alike left right) : heap.Alike right left := by
  induction alike with
  | same atom => exact .same atom
  | lists _ ih =>
      refine .lists (List.Forall₂.flip (ih.imp ?_))
      exact fun _ _ ⟨_, turned⟩ => turned

theorem trans (alike : heap.Alike left right) (next : heap.Alike right third) :
    heap.Alike left third := by
  induction alike generalizing third with
  | same => exact next
  | lists _ ih =>
      cases next with
      | same atom => exact absurd rfl (atom _)
      | lists others =>
          exact .lists (each_comp ih others fun ⟨_, onward⟩ pair => onward pair)

theorem typeName_eq (alike : heap.Alike left right) :
    heap.typeName left = heap.typeName right := by
  cases alike <;> rfl

end Alike

theorem alike_iff_eq (apart : ∀ id other, ¬ (left = .list id ∧ right = .list other)) :
    heap.Alike left right ↔ left = right := by
  constructor
  · intro alike
    cases alike with
    | same atom => rfl
    | lists each => exact absurd ⟨rfl, rfl⟩ (apart _ _)
  · rintro rfl
    exact .same fun id same => apart id id ⟨same, same⟩

/-! ## Comparison -/

theorem sameAtom_eq_true_iff (first : ∀ x, left ≠ .float x) (second : ∀ x, right ≠ .float x) :
    sameAtom left right = true ↔ left = right := by
  unfold sameAtom
  split
  · exact absurd rfl (first _)
  · exact absurd rfl (second _)
  · exact absurd rfl (first _)
  · exact decide_eq_true_iff

/-- A value is found equal to itself. -/
theorem equalWithin_self (exact : ∀ x, value ≠ .float x) (depth : Nat) :
    heap.equalWithin depth value value = true := by
  unfold equalWithin
  split
  · simp
  · exact (sameAtom_eq_true_iff exact exact).mpr rfl

theorem sameElements_eq_true_iff {same : Value → Value → Bool} {lefts rights : List Value} :
    sameElements same lefts rights = true ↔
      List.Forall₂ (fun one two => same one two = true) lefts rights := by
  induction lefts generalizing rights with
  | nil => cases rights <;> simp [sameElements]
  | cons left lefts ih => cases rights <;> simp [sameElements, ih]

/-- No list that the comparison has come through is met again inside itself. -/
theorem equalWithin_iff_alike {depth : Nat} {entered : List ListId}
    (room : heap.Room depth entered) (within : ∀ id ∈ entered, heap.Contains (.list id) left)
    (first : heap.Settled left) (second : heap.Settled right) :
    heap.equalWithin depth left right = true ↔ heap.Alike left right := by
  induction depth generalizing entered left right with
  | zero => exact absurd room.pos (Nat.lt_irrefl 0)
  | succ depth ih =>
      by_cases lists : ∃ id other, left = .list id ∧ right = .list other
      · rcases lists with ⟨id, other, rfl, rfl⟩
        have fresh : id ∉ entered := fun member => first.loopFree _ .refl (within id member)
        have inside {item : Value} (member : item ∈ heap.list id) :
            ∀ outer ∈ id :: entered, heap.Contains (.list outer) item := by
          have here : heap.Element (.list id) item := ⟨id, rfl, member⟩
          exact List.forall_mem_cons.mpr ⟨.single here, fun outer listed =>
            (within outer listed).tail here⟩
        have elements {one two : Value} (listed : one ∈ heap.list id) (settled : heap.Settled two) :
            heap.equalWithin depth one two = true ↔ heap.Alike one two :=
          ih (room.enter fresh listed) (inside listed) (first.item listed) settled
        rw [equalWithin, Bool.or_eq_true, decide_eq_true_iff, sameElements_eq_true_iff]
        constructor
        · rintro (same | each)
          · cases same
            refine .lists (List.forall₂_same.mpr fun item member => ?_)
            exact (elements member (first.item member)).mp
              (equalWithin_self (first.item member).not_float _)
          · refine .lists (each_weaken each fun one listed two among => ?_)
            exact (elements listed (second.item among)).mp
        · intro alike
          cases alike with
          | same atom => exact absurd rfl (atom id)
          | lists each =>
              refine .inr (each_weaken each fun one listed two among => ?_)
              exact (elements listed (second.item among)).mpr
      · have apart : ∀ id other, ¬ (left = .list id ∧ right = .list other) :=
          fun id other both => lists ⟨id, other, both⟩
        rw [equalWithin_atom apart, alike_iff_eq apart]
        exact sameAtom_eq_true_iff first.not_float second.not_float

theorem compare_eq : heap.compare .eq left right = .ok (heap.equal left right) := rfl

theorem equal_iff_alike (first : heap.Settled left) (second : heap.Settled right) :
    heap.Equal left right ↔ heap.Alike left right := by
  unfold Equal
  rw [compare_eq, Except.ok.injEq]
  have deep := Nat.lt_succ_of_le (Nat.le_mul_self heap.lists.size)
  exact equalWithin_iff_alike (.start deep) (List.forall_mem_nil _) first second

theorem Settled.alike_self (settled : heap.Settled value) : heap.Alike value value := by
  rw [← equal_iff_alike settled settled]
  exact congrArg Except.ok (equalWithin_self settled.not_float _)

theorem equal_lists_iff {id other : ListId} (first : heap.Settled (.list id))
    (second : heap.Settled (.list other)) :
    heap.Equal (.list id) (.list other) ↔
      List.Forall₂ heap.Equal (heap.list id) (heap.list other) := by
  have elements : ∀ one ∈ heap.list id, ∀ two ∈ heap.list other,
      heap.Equal one two ↔ heap.Alike one two :=
    fun one listed two among => equal_iff_alike (first.item listed) (second.item among)
  rw [equal_iff_alike first second]
  constructor
  · intro alike
    cases alike with
    | same atom => exact absurd rfl (atom id)
    | lists each =>
        exact each_weaken each fun one listed two among => (elements one listed two among).mpr
  · intro each
    exact .lists (each_weaken each fun one listed two among => (elements one listed two among).mp)

theorem equal_methods_iff {function other : FunctionId} {receiver another : ObjectId} :
    heap.Equal (.method function receiver) (.method other another) ↔
      function = other ∧ receiver = another := by
  have exact : ∀ (function : FunctionId) (receiver : ObjectId) x,
      Value.method function receiver ≠ .float x := fun _ _ _ same => by cases same
  have apart : ∀ id place, ¬ (Value.method function receiver = .list id ∧
      Value.method other another = .list place) := fun _ _ both => by cases both.1
  unfold Equal
  rw [compare_eq, Except.ok.injEq, equal, equalWithin_atom apart,
    sameAtom_eq_true_iff (exact _ _) (exact _ _), Value.method.injEq]

/--
Equality is an equivalence that agrees with structure.  Among values without floating-point
numbers and without lists that contain themselves, equality is reflexive, symmetric and
transitive, and lists are equal if and only if they have the same length and their elements are
equal one by one, on all levels.  Everything else is equal to nothing but itself, a method to
one of the same function and the same object, and values of different types are not equal.
For all values, inequality is the negation of equality, and neither fails.
-/
theorem equality_agrees_with_structure (first : heap.Settled left) (second : heap.Settled right)
    (last : heap.Settled third) :
    heap.Equal left left ∧ (heap.Equal left right ↔ heap.Equal right left) ∧
    (heap.Equal left right → heap.Equal right third → heap.Equal left third) ∧
    (heap.Equal left right ↔ heap.Alike left right) ∧
    (∀ id other, left = .list id → right = .list other →
      (heap.Equal left right ↔ List.Forall₂ heap.Equal (heap.list id) (heap.list other))) ∧
    ((∀ id other, ¬ (left = .list id ∧ right = .list other)) →
      (heap.Equal left right ↔ left = right)) ∧
    (∀ function receiver other another,
      heap.Equal (.method function receiver) (.method other another) ↔
        function = other ∧ receiver = another) ∧
    (heap.typeName left ≠ heap.typeName right → ¬ heap.Equal left right) ∧
    ∀ one two, ∃ same, heap.compare .eq one two = .ok same ∧
      heap.compare .ne one two = .ok (!same) := by
  have forth := equal_iff_alike first second
  have back := equal_iff_alike second first
  refine ⟨(equal_iff_alike first first).mpr first.alike_self,
    forth.trans (Iff.trans ⟨Alike.symm, Alike.symm⟩ back.symm), fun equal next => ?_, forth, ?_,
    fun apart => forth.trans (alike_iff_eq apart), fun _ _ _ _ => equal_methods_iff,
    fun different equal => different (forth.mp equal).typeName_eq, fun _ _ => ⟨_, rfl, rfl⟩⟩
  · exact (equal_iff_alike first last).mpr
      ((forth.mp equal).trans ((equal_iff_alike second last).mp next))
  · rintro id other rfl rfl
    exact equal_lists_iff first second

/-- Two lists of the same elements, one with the other twice, and one with both of them. -/
def sharedPairs : Heap :=
  { lists := #[[.int 1, .text "x"], [.int 1, .text "x"], [.list ⟨0⟩, .list ⟨0⟩],
      [.list ⟨0⟩, .list ⟨1⟩]] }

theorem sharedPairs_settled (id : ListId) : sharedPairs.Settled (.list id) := by
  refine settled_of_earlier (fun id item member => ?_) fun x same => by cases same
  rcases id with ⟨_ | _ | _ | _ | place⟩ <;>
    simp [sharedPairs, Heap.list] at member <;> rcases member with rfl | rfl <;> simp

/-- The lists are equal although their handles differ on all levels. -/
theorem sharedPairs_equal :
    sharedPairs.Settled (.list ⟨2⟩) ∧ sharedPairs.Settled (.list ⟨3⟩) ∧
      sharedPairs.Equal (.list ⟨2⟩) (.list ⟨3⟩) ∧ sharedPairs.Equal (.list ⟨3⟩) (.list ⟨2⟩) := by
  have first := sharedPairs_settled ⟨2⟩
  have second := sharedPairs_settled ⟨3⟩
  have one : sharedPairs.Alike (.int 1) (.int 1) := .same fun _ same => by cases same
  have x : sharedPairs.Alike (.text "x") (.text "x") := .same fun _ same => by cases same
  have twice : sharedPairs.Alike (.list ⟨0⟩) (.list ⟨0⟩) := .lists (.cons one (.cons x .nil))
  have both : sharedPairs.Alike (.list ⟨0⟩) (.list ⟨1⟩) := .lists (.cons one (.cons x .nil))
  have alike : sharedPairs.Alike (.list ⟨2⟩) (.list ⟨3⟩) := .lists (.cons twice (.cons both .nil))
  rcases equality_agrees_with_structure first second first with ⟨-, turned, -, structural, -⟩
  have equal := structural.mpr alike
  exact ⟨first, second, equal, turned.mp equal⟩

end Heap

end Data
end Scripting
