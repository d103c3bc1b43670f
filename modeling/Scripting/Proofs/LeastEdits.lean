import Mathlib.Data.List.Basic
import Mathlib.Data.List.Induction
import Mathlib.Order.Bounds.Basic
import Scripting.Text.EditDistance

namespace Scripting
namespace Text

/-!
The edit distance is the least number of edits.

An edit changes one character anywhere in a text, and edits may come in any order, so the
texts on the way from one text to another can be longer than both of them and need not have
anything in common with either.  The rows of the computation know nothing of these texts.
They compare the two given texts from the left, and each of their entries is the least cost
of an alignment: a way to put the characters of both side by side in which every character
has at most one partner.

The two views meet in one lemma.  An alignment with a text becomes an alignment with the text
after one more edit, and its cost grows by one at most.  So no sequence of edits is shorter
than the cheapest alignment.  That the distance is a metric follows from the edits alone.
-/

variable {first second third front back : List Char} {cost count : Nat}

/-! ## Edits -/

/-- A text is changed in one character. -/
inductive Edit : List Char → List Char → Prop
  | insert (front back : List Char) (c : Char) : Edit (front ++ back) (front ++ c :: back)
  | delete (front back : List Char) (c : Char) : Edit (front ++ c :: back) (front ++ back)
  | substitute (front back : List Char) (c d : Char) :
      Edit (front ++ c :: back) (front ++ d :: back)

/-- A number of edits, one after the other, turns one text into another. -/
inductive Edits : Nat → List Char → List Char → Prop
  | nothing (text : List Char) : Edits 0 text text
  | further {count : Nat} {first between last : List Char} (earlier : Edits count first between)
      (edit : Edit between last) : Edits (count + 1) first last

theorem Edit.symm (edit : Edit first second) : Edit second first := by
  cases edit with
  | insert front back c => exact .delete front back c
  | delete front back c => exact .insert front back c
  | substitute front back c d => exact .substitute front back d c

theorem Edit.append (edit : Edit first second) (more : List Char) :
    Edit (first ++ more) (second ++ more) := by
  cases edit with
  | insert front back c => simpa using Edit.insert front (back ++ more) c
  | delete front back c => simpa using Edit.delete front (back ++ more) c
  | substitute front back c d => simpa using Edit.substitute front (back ++ more) c d

theorem Edit.length_le (edit : Edit first second) : first.length ≤ second.length + 1 := by
  cases edit <;> simp <;> omega

theorem Edits.single (edit : Edit first second) : Edits 1 first second :=
  .further (.nothing first) edit

theorem Edits.trans {others : Nat} (earlier : Edits count first second)
    (later : Edits others second third) : Edits (count + others) first third := by
  induction later with
  | nothing => exact earlier
  | further _ edit ih => exact .further (ih earlier) edit

theorem Edits.symm (edits : Edits count first second) : Edits count second first := by
  induction edits with
  | nothing text => exact .nothing text
  | @further count first between last earlier edit ih =>
      rw [Nat.add_comm]
      exact (Edits.single edit.symm).trans ih

theorem Edits.append (edits : Edits count first second) (more : List Char) :
    Edits count (first ++ more) (second ++ more) := by
  induction edits with
  | nothing text => exact .nothing (text ++ more)
  | further _ edit ih => exact .further ih (edit.append more)

theorem Edits.length_le (edits : Edits count first second) :
    first.length ≤ second.length + count := by
  induction edits with
  | nothing => exact Nat.le_refl _
  | further _ edit ih =>
      have one := edit.length_le
      omega

theorem edits_zero_iff : Edits 0 first second ↔ first = second := by
  constructor
  · intro none
    cases none
    rfl
  · rintro rfl
    exact .nothing first

/-! ## Alignments -/

/-- What it costs to put two characters side by side. -/
def mismatch (c d : Char) : Nat :=
  if c = d then 0 else 1

theorem mismatch_self (c : Char) : mismatch c c = 0 :=
  if_pos rfl

theorem mismatch_le_one (c d : Char) : mismatch c d ≤ 1 := by
  unfold mismatch
  split <;> omega

/--
Two texts with the characters of the one put beside those of the other.  A character without
a partner costs one, as do two different partners.
-/
inductive Alignment : Nat → List Char → List Char → Prop
  | empty : Alignment 0 [] []
  | drop {cost : Nat} {first second : List Char} (c : Char)
      (before : Alignment cost first second) : Alignment (cost + 1) (first ++ [c]) second
  | add {cost : Nat} {first second : List Char} (d : Char)
      (before : Alignment cost first second) : Alignment (cost + 1) first (second ++ [d])
  | pair {cost : Nat} {first second : List Char} (c d : Char)
      (before : Alignment cost first second) :
      Alignment (cost + mismatch c d) (first ++ [c]) (second ++ [d])

namespace Alignment

theorem edits (alignment : Alignment cost first second) : Edits cost first second := by
  induction alignment with
  | empty => exact .nothing []
  | @drop cost first second c _ ih =>
      have deleted := Edit.delete second [] c
      rw [List.append_nil] at deleted
      exact .further (ih.append [c]) deleted
  | @add cost first second d _ ih =>
      have inserted := Edit.insert second [] d
      rw [List.append_nil] at inserted
      exact .further ih inserted
  | @pair cost first second c d _ ih =>
      by_cases same : c = d
      · subst same
        rw [mismatch_self]
        exact ih.append [c]
      · rw [mismatch, if_neg same]
        exact .further (ih.append [c]) (.substitute second [] c d)

theorem refl (text : List Char) : Alignment 0 text text := by
  induction text using List.reverseRecOn with
  | nil => exact .empty
  | append_singleton text c ih =>
      have paired := ih.pair c c
      rwa [mismatch_self] at paired

theorem append {others : Nat} {more further : List Char}
    (before : Alignment cost first second) (behind : Alignment others more further) :
    Alignment (cost + others) (first ++ more) (second ++ further) := by
  induction behind with
  | empty => simpa using before
  | drop c _ ih =>
      rw [← List.append_assoc]
      exact ih.drop c
  | add d _ ih =>
      rw [← List.append_assoc]
      exact ih.add d
  | pair c d _ ih =>
      rw [← List.append_assoc, ← List.append_assoc, ← Nat.add_assoc]
      exact ih.pair c d

theorem dropped (text : List Char) : Alignment text.length text [] := by
  induction text using List.reverseRecOn with
  | nil => exact .empty
  | append_singleton text c ih =>
      rw [List.length_append]
      exact ih.drop c

theorem added (text : List Char) : Alignment text.length [] text := by
  induction text using List.reverseRecOn with
  | nil => exact .empty
  | append_singleton text d ih =>
      rw [List.length_append]
      exact ih.add d

theorem length_le (alignment : Alignment cost first second) :
    first.length ≤ second.length + cost :=
  alignment.edits.length_le

/-- Where the second text is taken apart, the first one is too. -/
theorem split (alignment : Alignment cost first (front ++ back)) :
    ∃ firstFront firstBack costFront costBack, first = firstFront ++ firstBack ∧
      cost = costFront + costBack ∧ Alignment costFront firstFront front ∧
      Alignment costBack firstBack back := by
  generalize whole : front ++ back = second at alignment
  induction alignment generalizing back with
  | empty =>
      rcases List.append_eq_nil_iff.mp whole with ⟨rfl, rfl⟩
      exact ⟨[], [], 0, 0, rfl, rfl, .empty, .empty⟩
  | @drop cost first second c _ ih =>
      rcases ih whole with ⟨firstFront, firstBack, costFront, costBack, rfl, rfl, left, right⟩
      refine ⟨firstFront, firstBack ++ [c], costFront, costBack + 1, ?_, ?_, left, right.drop c⟩
      · rw [List.append_assoc]
      · rw [Nat.add_assoc]
  | @add cost first second d before ih =>
      rcases List.eq_nil_or_concat' back with rfl | ⟨back, d', rfl⟩
      · rw [List.append_nil] at whole
        exact ⟨first, [], cost + 1, 0, by simp, rfl, whole ▸ before.add d, .empty⟩
      · rw [← List.append_assoc] at whole
        rcases List.append_inj' whole rfl with ⟨rfl, same⟩
        cases same
        rcases ih rfl with ⟨firstFront, firstBack, costFront, costBack, rfl, rfl, left, right⟩
        exact ⟨firstFront, firstBack, costFront, costBack + 1, rfl, Nat.add_assoc _ _ _, left,
          right.add d⟩
  | @pair cost first second c d before ih =>
      rcases List.eq_nil_or_concat' back with rfl | ⟨back, d', rfl⟩
      · rw [List.append_nil] at whole
        exact ⟨first ++ [c], [], _, 0, by simp, rfl, whole ▸ before.pair c d, .empty⟩
      · rw [← List.append_assoc] at whole
        rcases List.append_inj' whole rfl with ⟨rfl, same⟩
        cases same
        rcases ih rfl with ⟨firstFront, firstBack, costFront, costBack, rfl, rfl, left, right⟩
        refine ⟨firstFront, firstBack ++ [c], costFront, costBack + mismatch c d, ?_, ?_, left,
          right.pair c d⟩
        · rw [List.append_assoc]
        · rw [Nat.add_assoc]

/-- The characters beside a single one can be put beside any other, or beside none. -/
theorem beside {c : Char} {other : List Char} (alignment : Alignment cost first [c])
    (short : other.length ≤ 1) : ∃ less ≤ cost + 1, Alignment less first other := by
  have length := alignment.length_le
  rw [List.length_singleton] at length
  rcases other with _ | ⟨d, other⟩
  · exact ⟨first.length, by omega, dropped first⟩
  · have alone : other = [] := by simpa using short
    subst alone
    rcases List.eq_nil_or_concat' first with rfl | ⟨before, b, rfl⟩
    · exact ⟨1, Nat.le_add_left 1 cost, added [d]⟩
    · have paired := (dropped before).pair b d
      have bounded := mismatch_le_one b d
      rw [List.length_append, List.length_singleton] at length
      exact ⟨_, by omega, paired⟩

/-- One edit more costs at most one more. -/
theorem after_edit {between last : List Char} (alignment : Alignment cost first between)
    (edit : Edit between last) : ∃ less ≤ cost + 1, Alignment less first last := by
  -- The characters beside the edited one are aligned anew; all others keep their partners.
  have replaced : ∀ {c : Char} {front back : List Char} (other : List Char),
      Alignment cost first (front ++ ([c] ++ back)) → other.length ≤ 1 →
      ∃ less ≤ cost + 1, Alignment less first (front ++ (other ++ back)) := by
    intro c front back other alignment short
    rcases alignment.split with ⟨_, _, costFront, _, rfl, rfl, left, rest⟩
    rcases rest.split with ⟨_, _, costHere, costBack, rfl, rfl, here, right⟩
    rcases here.beside short with ⟨less, bound, anew⟩
    exact ⟨costFront + (less + costBack), by omega, left.append (anew.append right)⟩
  cases edit with
  | insert front back c =>
      rcases alignment.split with ⟨_, _, costFront, costBack, rfl, rfl, left, right⟩
      have inserted := (left.add c).append right
      rw [List.append_assoc] at inserted
      exact ⟨costFront + 1 + costBack, by omega, inserted⟩
  | delete front back c => exact replaced [] alignment (by simp)
  | substitute front back c d => exact replaced [d] alignment (by simp)

theorem of_edits (edits : Edits count first second) :
    ∃ less ≤ count, Alignment less first second := by
  induction edits with
  | nothing text => exact ⟨0, Nat.le_refl 0, refl text⟩
  | further _ edit ih =>
      rcases ih with ⟨less, bound, alignment⟩
      rcases alignment.after_edit edit with ⟨next, onward, alignment⟩
      exact ⟨next, by omega, alignment⟩

/-- The last characters of two texts stand side by side, or one of them is without a partner. -/
theorem last_cases {c d : Char} (alignment : Alignment cost (first ++ [c]) (second ++ [d])) :
    (∃ less, cost = less + 1 ∧ Alignment less first (second ++ [d])) ∨
      (∃ less, cost = less + 1 ∧ Alignment less (first ++ [c]) second) ∨
      ∃ less, cost = less + mismatch c d ∧ Alignment less first second := by
  generalize left : first ++ [c] = whole at alignment
  generalize right : second ++ [d] = other at alignment
  cases alignment with
  | empty => simp at left
  | drop c' before =>
      rcases List.append_inj' left rfl with ⟨rfl, same⟩
      exact Or.inl ⟨_, rfl, before⟩
  | add d' before =>
      rcases List.append_inj' right rfl with ⟨rfl, same⟩
      exact Or.inr (Or.inl ⟨_, rfl, before⟩)
  | pair c' d' before =>
      rcases List.append_inj' left rfl with ⟨rfl, sameLeft⟩
      rcases List.append_inj' right rfl with ⟨rfl, sameRight⟩
      cases sameLeft
      cases sameRight
      exact Or.inr (Or.inr ⟨_, rfl, before⟩)

end Alignment

/-! ## Rows -/

/-- The least cost of an alignment of two texts. -/
def LeastCost (first second : List Char) (cost : Nat) : Prop :=
  IsLeast {cost | Alignment cost first second} cost

namespace LeastCost

theorem added (second : List Char) : LeastCost [] second second.length := by
  refine ⟨Alignment.added second, ?_⟩
  intro cost alignment
  have length := alignment.edits.symm.length_le
  rwa [List.length_nil, Nat.zero_add] at length

theorem dropped (first : List Char) : LeastCost first [] first.length := by
  refine ⟨Alignment.dropped first, ?_⟩
  intro cost alignment
  have length := alignment.length_le
  rwa [List.length_nil, Nat.zero_add] at length

/-- The rule by which an entry follows from the three beside and above it. -/
theorem entry {c d : Char} {up left corner : Nat} (above : LeastCost first (second ++ [d]) up)
    (beside : LeastCost (first ++ [c]) second left) (across : LeastCost first second corner) :
    LeastCost (first ++ [c]) (second ++ [d])
      (min (min (up + 1) (left + 1)) (corner + mismatch c d)) := by
  constructor
  · rcases Nat.le_total (min (up + 1) (left + 1)) (corner + mismatch c d) with gap | pair
    · rw [Nat.min_eq_left gap]
      rcases Nat.le_total (up + 1) (left + 1) with drop | add
      · rw [Nat.min_eq_left drop]
        exact above.1.drop c
      · rw [Nat.min_eq_right add]
        exact beside.1.add d
    · rw [Nat.min_eq_right pair]
      exact across.1.pair c d
  · intro cost alignment
    rcases alignment.last_cases with ⟨less, rfl, before⟩ | ⟨less, rfl, before⟩ | ⟨less, rfl, before⟩
    · have bound := above.2 before
      omega
    · have bound := beside.2 before
      omega
    · have bound := across.2 before
      omega

theorem isLeast_edits (least : LeastCost first second cost) :
    IsLeast {count | Edits count first second} cost := by
  refine ⟨least.1.edits, ?_⟩
  intro count edits
  rcases Alignment.of_edits edits with ⟨less, bound, alignment⟩
  exact Nat.le_trans (least.2 alignment) bound

end LeastCost

/--
The part of a row from some place on: the least costs of the first text beside the second one
up to that place and beside all longer parts of it.
-/
inductive RowFrom (first : List Char) : List Char → List Char → List Nat → Prop
  | last {second : List Char} {entry : Nat} (least : LeastCost first second entry) :
      RowFrom first second [] [entry]
  | more {second rest : List Char} {d : Char} {entry : Nat} {row : List Nat}
      (least : LeastCost first second entry) (later : RowFrom first (second ++ [d]) rest row) :
      RowFrom first second (d :: rest) (entry :: row)

variable {rest : List Char} {row : List Nat}

theorem rowFrom_start (second rest : List Char) :
    RowFrom [] second rest (List.range' second.length (rest.length + 1)) := by
  induction rest generalizing second with
  | nil => exact .last (.added second)
  | cons d rest ih =>
      have later := ih (second ++ [d])
      rw [List.length_append, List.length_singleton] at later
      exact .more (.added second) later

theorem RowFrom.head {entry : Nat} (entries : RowFrom first second rest (entry :: row)) :
    LeastCost first second entry := by
  cases entries with
  | last least => exact least
  | more least _ => exact least

theorem RowFrom.rowAfter {c : Char} {left corner : Nat} {above : List Nat}
    (entries : RowFrom first second rest (corner :: above))
    (least : LeastCost (first ++ [c]) second left) :
    RowFrom (first ++ [c]) second rest (left :: rowAfter c left corner above rest) := by
  induction rest generalizing second left corner above with
  | nil =>
      cases entries
      exact .last least
  | cons d rest ih =>
      cases entries with
      | more across later =>
          rcases above with _ | ⟨up, above⟩
          · cases later
          · exact .more least (ih later (.entry later.head least across))

/-- One more character of the first text makes the next row from a row. -/
theorem RowFrom.nextRow (entries : RowFrom first [] second row) (c : Char) :
    RowFrom (first ++ [c]) [] second (nextRow second row c) := by
  rcases row with _ | ⟨corner, above⟩
  · cases entries
  · have corner_eq : corner = first.length := entries.head.unique (LeastCost.dropped first)
    have dropped := LeastCost.dropped (first ++ [c])
    rw [List.length_append, List.length_singleton, ← corner_eq] at dropped
    exact entries.rowAfter dropped

theorem RowFrom.rows {more : List Char} (entries : RowFrom first [] second row) :
    RowFrom (first ++ more) [] second (more.foldl (Text.nextRow second) row) := by
  induction more generalizing first row with
  | nil => simpa using entries
  | cons c more ih => simpa using ih (entries.nextRow c)

theorem RowFrom.getLastD (entries : RowFrom first second rest row) :
    LeastCost first (second ++ rest) (row.getLastD 0) := by
  induction entries with
  | last least => simpa using least
  | @more second rest d entry row least later ih =>
      rcases row with _ | ⟨next, row⟩
      · cases later
      · simpa using ih

/-! ## The distance -/

theorem editDistance_isLeast (first second : List Char) :
    IsLeast {count | Edits count first second} (editDistance first second) := by
  have start := rowFrom_start [] second
  rw [List.length_nil, ← List.range_eq_range'] at start
  have rows : RowFrom ([] ++ first) [] second _ := start.rows
  exact rows.getLastD.isLeast_edits

theorem edits_editDistance (first second : List Char) :
    Edits (editDistance first second) first second :=
  (editDistance_isLeast first second).1

theorem Edits.editDistance_le (edits : Edits count first second) :
    editDistance first second ≤ count :=
  (editDistance_isLeast first second).2 edits

theorem editDistance_comm (first second : List Char) :
    editDistance first second = editDistance second first := by
  apply Nat.le_antisymm
  · exact (edits_editDistance second first).symm.editDistance_le
  · exact (edits_editDistance first second).symm.editDistance_le

theorem editDistance_eq_zero_iff : editDistance first second = 0 ↔ first = second := by
  rw [← edits_zero_iff]
  constructor
  · intro none
    have edits := edits_editDistance first second
    rwa [none] at edits
  · intro none
    exact Nat.le_zero.mp none.editDistance_le

theorem editDistance_triangle (first second third : List Char) :
    editDistance first third ≤ editDistance first second + editDistance second third :=
  ((edits_editDistance first second).trans (edits_editDistance second third)).editDistance_le

/-- Texts are at least as far apart as their lengths. -/
theorem length_sub_le_editDistance (first second : List Char) :
    max (first.length - second.length) (second.length - first.length) ≤
      editDistance first second := by
  have forth := (edits_editDistance first second).length_le
  have back := (edits_editDistance first second).symm.length_le
  omega

/--
The edit distance of two texts is the least number of insertions, deletions and substitutions
of single characters that turn the one into the other.  Hence it is a metric, and the lengths
of the texts bound it from below.
-/
theorem editDistance_levenshtein (first second : List Char) :
    IsLeast {count | Edits count first second} (editDistance first second) ∧
      editDistance first second = editDistance second first ∧
      (editDistance first second = 0 ↔ first = second) ∧
      (∀ third, editDistance first third ≤
        editDistance first second + editDistance second third) ∧
      max (first.length - second.length) (second.length - first.length) ≤
        editDistance first second :=
  ⟨editDistance_isLeast first second, editDistance_comm first second, editDistance_eq_zero_iff,
    editDistance_triangle first second, length_sub_le_editDistance first second⟩

example : editDistance "kitten".toList "sitting".toList = 3 := by decide

end Text
end Scripting
