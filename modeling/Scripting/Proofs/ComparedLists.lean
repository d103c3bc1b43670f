import Mathlib.Data.Finset.Card
import Mathlib.Data.Fintype.Prod
import Scripting.Data.Comparison

namespace Scripting
namespace Data

/-!
How far comparisons go into lists.

A comparison follows the elements of two lists, and lists may contain themselves; so it is given
a depth.  With more depth it finds more values equal, but there are only so many pairs of lists.
As soon as one more level makes no difference to any pair, none makes one later on, and the depth
that comparisons are given is one at which this is the case.  So two values are equal if they are
found equal at any depth at all.
-/

/-- A growing chain of sets of limited size stands still somewhere. -/
theorem chain_stands_still {α : Type} (chain : Nat → Finset α) {bound : Nat}
    (grows : ∀ place, chain place ⊆ chain (place + 1))
    (few : ∀ place, (chain place).card ≤ bound) :
    ∃ place ≤ bound, chain (place + 1) = chain place := by
  by_contra moves
  have larger : ∀ place ≤ bound + 1, place ≤ (chain place).card := by
    intro place
    induction place with
    | zero => exact fun _ => Nat.zero_le _
    | succ place ih =>
        intro within
        have apart : chain place ≠ chain (place + 1) := fun same =>
          moves ⟨place, by omega, same.symm⟩
        have strict := Finset.card_lt_card ((grows place).ssubset_of_ne apart)
        have before := ih (by omega)
        omega
  have least := larger (bound + 1) (Nat.le_refl _)
  have most := few (bound + 1)
  omega

theorem sameElements_mono {same more : Value → Value → Bool}
    (grows : ∀ left right, same left right = true → more left right = true)
    {lefts rights : List Value} (found : sameElements same lefts rights = true) :
    sameElements more lefts rights = true := by
  induction lefts generalizing rights with
  | nil => cases rights <;> exact found
  | cons left lefts ih =>
      cases rights with
      | nil => exact found
      | cons right rights =>
          obtain ⟨first, rest⟩ := Bool.and_eq_true_iff.mp found
          exact Bool.and_eq_true_iff.mpr ⟨grows left right first, ih rest⟩

namespace Heap

variable {heap : Heap} {depth more : Nat} {left right : Value}

theorem equalWithin_atom (atom : ∀ id other, ¬ (left = .list id ∧ right = .list other))
    (depth : Nat) : heap.equalWithin depth left right = sameAtom left right := by
  unfold equalWithin
  split
  · exact absurd ⟨rfl, rfl⟩ (atom _ _)
  · rfl

/-! ## More depth -/

theorem equalWithin_succ (found : heap.equalWithin depth left right = true) :
    heap.equalWithin (depth + 1) left right = true := by
  induction depth generalizing left right with
  | zero =>
      by_cases lists : ∃ id other, left = .list id ∧ right = .list other
      · obtain ⟨id, other, rfl, rfl⟩ := lists
        have same : id = other := by simpa [equalWithin, sameAtom] using found
        simp [equalWithin, same]
      · have atom := fun id other both => lists ⟨id, other, both⟩
        rw [equalWithin_atom atom] at found ⊢
        exact found
  | succ depth ih =>
      by_cases lists : ∃ id other, left = .list id ∧ right = .list other
      · obtain ⟨id, other, rfl, rfl⟩ := lists
        rw [equalWithin, Bool.or_eq_true_iff] at found ⊢
        exact found.imp_right fun each => sameElements_mono (fun _ _ => ih) each
      · have atom := fun id other both => lists ⟨id, other, both⟩
        rw [equalWithin_atom atom] at found ⊢
        exact found

theorem equalWithin_mono (deeper : depth ≤ more)
    (found : heap.equalWithin depth left right = true) :
    heap.equalWithin more left right = true := by
  induction more, deeper using Nat.le_induction with
  | base => exact found
  | succ more _ ih => exact equalWithin_succ ih

/-- What is found at some depth decides what is found one level further up. -/
theorem equalWithin_succ_congr (same : heap.equalWithin depth = heap.equalWithin more) :
    heap.equalWithin (depth + 1) = heap.equalWithin (more + 1) := by
  funext left right
  by_cases lists : ∃ id other, left = .list id ∧ right = .list other
  · obtain ⟨id, other, rfl, rfl⟩ := lists
    simp only [equalWithin, same]
  · have atom := fun id other both => lists ⟨id, other, both⟩
    rw [equalWithin_atom atom, equalWithin_atom atom]

/-! ## Enough depth -/

/-- The pairs of lists that are found equal down to a depth. -/
def equalPairs (heap : Heap) (depth : Nat) :
    Finset (Fin heap.lists.size × Fin heap.lists.size) :=
  Finset.univ.filter fun pair =>
    heap.equalWithin depth (.list ⟨pair.1⟩) (.list ⟨pair.2⟩) = true

theorem card_equalPairs_le (heap : Heap) (depth : Nat) :
    (heap.equalPairs depth).card ≤ heap.lists.size * heap.lists.size := by
  have all := Finset.card_le_univ (heap.equalPairs depth)
  rw [Fintype.card_prod, Fintype.card_fin] at all
  exact all

theorem equalPairs_subset (heap : Heap) (depth : Nat) :
    heap.equalPairs depth ⊆ heap.equalPairs (depth + 1) := by
  intro pair member
  simp only [equalPairs, Finset.mem_filter, Finset.mem_univ, true_and] at member ⊢
  exact equalWithin_succ member

/-- A list that is not there has no elements. -/
theorem list_of_size_le {id : ListId} (beyond : heap.lists.size ≤ id.index) :
    heap.list id = [] := by
  unfold list
  rw [Array.getD_eq_getD_getElem?, Array.getElem?_eq_none beyond]
  rfl

theorem sameElements_nil_right (same other : Value → Value → Bool) (lefts : List Value) :
    sameElements same lefts [] = sameElements other lefts [] := by
  cases lefts <;> rfl

/-- If a further level makes no difference to the pairs of lists, it makes none to any values. -/
theorem equalWithin_of_equalPairs
    (still : heap.equalPairs (depth + 1 + 1) = heap.equalPairs (depth + 1)) :
    heap.equalWithin (depth + 1 + 1) = heap.equalWithin (depth + 1) := by
  funext left right
  by_cases lists : ∃ id other, left = .list id ∧ right = .list other
  · obtain ⟨id, other, rfl, rfl⟩ := lists
    rcases Nat.lt_or_ge id.index heap.lists.size with first | beyond
    · rcases Nat.lt_or_ge other.index heap.lists.size with second | beyond
      · have pair := Finset.ext_iff.mp still (⟨id.index, first⟩, ⟨other.index, second⟩)
        simp only [equalPairs, Finset.mem_filter, Finset.mem_univ, true_and] at pair
        exact Bool.eq_iff_iff.mpr pair
      · simp only [equalWithin, list_of_size_le beyond]
        rw [sameElements_nil_right]
    · simp only [equalWithin, list_of_size_le beyond]
      cases heap.list other <;> rfl
  · have atom := fun id other both => lists ⟨id, other, both⟩
    rw [equalWithin_atom atom, equalWithin_atom atom]

/-- Beyond the number of pairs of lists, the depth does not matter. -/
theorem equalWithin_of_deep (deep : heap.lists.size * heap.lists.size < depth) :
    heap.equalWithin depth = heap.equalWithin (heap.lists.size * heap.lists.size + 1) := by
  obtain ⟨place, early, still⟩ := chain_stands_still (fun place => heap.equalPairs (place + 1))
    (fun place => heap.equalPairs_subset (place + 1)) fun place => heap.card_equalPairs_le (place + 1)
  have first := equalWithin_of_equalPairs still
  have constant : ∀ depth, place + 1 ≤ depth →
      heap.equalWithin depth = heap.equalWithin (place + 1) := by
    intro depth later
    induction depth, later using Nat.le_induction with
    | base => rfl
    | succ depth _ ih => exact (equalWithin_succ_congr ih).trans first
  exact (constant depth (by omega)).trans (constant _ (by omega)).symm

/-- Values are equal if a comparison to any depth says so. -/
theorem equal_iff_exists_depth :
    heap.equal left right = true ↔ ∃ depth, heap.equalWithin depth left right = true := by
  constructor
  · intro found
    exact ⟨_, found⟩
  · rintro ⟨depth, found⟩
    have deep := equalWithin_mono
      (Nat.le_max_left depth (heap.lists.size * heap.lists.size + 1)) found
    rw [equalWithin_of_deep (by omega)] at deep
    exact deep

/-- A list that contains itself may be equal to one that does not contain it. -/
example :
    let heap : Heap := { lists := #[[.list ⟨0⟩], [.list ⟨2⟩], [.list ⟨0⟩]] }
    heap.equal (.list ⟨0⟩) (.list ⟨1⟩) = true := by
  decide

end Heap

end Data
end Scripting
