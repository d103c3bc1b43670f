import Scripting.Data.Suggestion
import Scripting.Proofs.LeastEdits
import Scripting.Proofs.TableHistories

namespace Scripting
namespace Text

/-!
Suggestions are the first of the closest names.

A name is misspelt most likely where it differs least, so what counts is the edit distance, and
only names within reach count at all.  Candidates whose lengths differ too much are left out
before their distance is computed; since the difference of the lengths is a lower bound of the
distance, they would have been left out anyway.

Candidates are gone through in order, and only a closer one replaces the best one so far.  This
makes the first of the closest candidates win: among the tables of a scope the innermost one
that has such a name, in that table the name that was bound first, and a reserved word only
when no visible name is as close.
-/

/-- How many edits lie between a name and a candidate for it. -/
def nameDistance (name candidate : String) : Nat :=
  editDistance name.toList candidate.toList

/-- Another name that is close enough to be meant. -/
structure Resembles (name candidate : String) : Prop where
  other : candidate ≠ name
  reached : nameDistance name candidate ≤ suggestionReach name.length

/-- All candidates that come into question are farther away than the one found. -/
def Farther (name found : String) (candidates : List String) : Prop :=
  ∀ candidate ∈ candidates, Resembles name candidate →
    nameDistance name found < nameDistance name candidate

/-- No candidate that comes into question is closer than the one found. -/
def NoCloser (name found : String) (candidates : List String) : Prop :=
  ∀ candidate ∈ candidates, Resembles name candidate →
    nameDistance name found ≤ nameDistance name candidate

/-- The first of the closest candidates. -/
def FirstClosest (name : String) (candidates : List String) (found : String) : Prop :=
  ∃ earlier later, candidates = earlier ++ found :: later ∧ Resembles name found ∧
    Farther name found earlier ∧ NoCloser name found later

variable {name found other candidate : String} {candidates first second : List String}

/-! ## Candidates one behind the other -/

theorem farther_append :
    Farther name found (first ++ second) ↔
      Farther name found first ∧ Farther name found second :=
  List.forall_mem_append

theorem noCloser_append :
    NoCloser name found (first ++ second) ↔
      NoCloser name found first ∧ NoCloser name found second :=
  List.forall_mem_append

theorem farther_flatMap {α : Type} {groups : List α} {members : α → List String} :
    Farther name found (groups.flatMap members) ↔
      ∀ group ∈ groups, Farther name found (members group) := by
  unfold Farther
  simp only [List.mem_flatMap]
  exact ⟨fun all group member candidate here => all candidate ⟨group, member, here⟩,
    fun all candidate ⟨group, member, here⟩ => all group member candidate here⟩

theorem noCloser_flatMap {α : Type} {groups : List α} {members : α → List String} :
    NoCloser name found (groups.flatMap members) ↔
      ∀ group ∈ groups, NoCloser name found (members group) := by
  unfold NoCloser
  simp only [List.mem_flatMap]
  exact ⟨fun all group member candidate here => all candidate ⟨group, member, here⟩,
    fun all candidate ⟨group, member, here⟩ => all group member candidate here⟩

theorem Farther.noCloser (farther : Farther name found candidates) :
    NoCloser name found candidates :=
  fun candidate member resembles => Nat.le_of_lt (farther candidate member resembles)

namespace FirstClosest

theorem resembles (closest : FirstClosest name candidates found) : Resembles name found := by
  rcases closest with ⟨_, _, -, resembles, -⟩
  exact resembles

theorem mem (closest : FirstClosest name candidates found) : found ∈ candidates := by
  rcases closest with ⟨earlier, later, rfl, -⟩
  simp

theorem noCloser (closest : FirstClosest name candidates found) :
    NoCloser name found candidates := by
  rcases closest with ⟨earlier, later, rfl, -, before, behind⟩
  refine noCloser_append.mpr ⟨before.noCloser, ?_⟩
  exact List.forall_mem_cons.mpr ⟨fun _ => Nat.le_refl _, behind⟩

/-- The closest one stands in the first part, or in the second with none as close before it. -/
theorem append_iff :
    FirstClosest name (first ++ second) found ↔
      (FirstClosest name first found ∧ NoCloser name found second) ∨
        (Farther name found first ∧ FirstClosest name second found) := by
  constructor
  · rintro ⟨earlier, later, split, resembles, before, behind⟩
    rcases List.append_eq_append_iff.mp split with ⟨rest, rfl, rfl⟩ | ⟨rest, rfl, ends⟩
    · rcases farther_append.mp before with ⟨others, before⟩
      exact .inr ⟨others, rest, later, rfl, resembles, before, behind⟩
    · rcases List.cons_eq_append_iff.mp ends with ⟨rfl, rfl⟩ | ⟨rest, rfl, rfl⟩
      · refine .inr ⟨by simpa using before, [], later, rfl, resembles, ?_, behind⟩
        exact List.forall_mem_nil _
      · rcases noCloser_append.mp behind with ⟨behind, others⟩
        exact .inl ⟨⟨earlier, rest, rfl, resembles, before, behind⟩, others⟩
  · rintro (⟨⟨earlier, later, rfl, resembles, before, behind⟩, others⟩ |
      ⟨others, earlier, later, rfl, resembles, before, behind⟩)
    · refine ⟨earlier, later ++ second, by simp, resembles, before, ?_⟩
      exact noCloser_append.mpr ⟨behind, others⟩
    · refine ⟨first ++ earlier, later, by simp, resembles, ?_, behind⟩
      exact farther_append.mpr ⟨others, before⟩

theorem singleton_iff : FirstClosest name [candidate] found ↔
    found = candidate ∧ Resembles name candidate := by
  constructor
  · intro closest
    have same : found = candidate := List.mem_singleton.mp closest.mem
    exact ⟨same, same ▸ closest.resembles⟩
  · rintro ⟨rfl, resembles⟩
    exact ⟨[], [], rfl, resembles, List.forall_mem_nil _, List.forall_mem_nil _⟩

/-- Among groups of candidates, the first group with a closest one decides. -/
theorem flatMap_iff {α : Type} {groups : List α} {members : α → List String} :
    FirstClosest name (groups.flatMap members) found ↔
      ∃ nearer group farther, groups = nearer ++ group :: farther ∧
        (∀ other ∈ nearer, Farther name found (members other)) ∧
        FirstClosest name (members group) found ∧
        ∀ other ∈ farther, NoCloser name found (members other) := by
  constructor
  · intro closest
    induction groups with
    | nil => cases closest.mem
    | cons group groups ih =>
        rw [List.flatMap_cons, append_iff] at closest
        rcases closest with ⟨here, others⟩ | ⟨farther, later⟩
        · exact ⟨[], group, groups, rfl, List.forall_mem_nil _, here, noCloser_flatMap.mp others⟩
        · rcases ih later with ⟨nearer, place, rest, rfl, before, here, others⟩
          refine ⟨group :: nearer, place, rest, rfl, ?_, here, others⟩
          exact List.forall_mem_cons.mpr ⟨farther, before⟩
  · rintro ⟨nearer, group, farther, rfl, before, here, others⟩
    rw [List.flatMap_append, List.flatMap_cons]
    refine append_iff.mpr (.inr ⟨farther_flatMap.mpr before, ?_⟩)
    exact append_iff.mpr (.inl ⟨here, noCloser_flatMap.mpr others⟩)

/-- A distance less than the other one on either side would be a contradiction. -/
theorem unique (closest : FirstClosest name candidates found)
    (again : FirstClosest name candidates other) : found = other := by
  have least := closest.noCloser other again.mem again.resembles
  have leastToo := again.noCloser found closest.mem closest.resembles
  rcases again with ⟨earlier, later, rfl, resembles, before, -⟩
  rcases append_iff.mp closest with ⟨front, -⟩ | ⟨-, back⟩
  · have less := before found front.mem closest.resembles
    omega
  · rw [← List.singleton_append] at back
    rcases append_iff.mp back with ⟨here, -⟩ | ⟨farther, -⟩
    · exact (singleton_iff.mp here).1
    · have less := farther other List.mem_cons_self resembles
      omega

end FirstClosest

/-! ## Going through the candidates -/

/-- The difference of the lengths passes over no candidate that is close enough. -/
theorem Resembles.length_le (resembles : Resembles name candidate) :
    max (name.length - candidate.length) (candidate.length - name.length) ≤
      suggestionReach name.length := by
  have bound := length_sub_le_editDistance name.toList candidate.toList
  rw [String.length_toList, String.length_toList] at bound
  exact Nat.le_trans bound resembles.reached

/-- What is kept when these candidates have been gone through. -/
inductive Best (name : String) (seen : List String) : Option (String × Nat) → Prop
  | nothing (unlike : ∀ candidate ∈ seen, ¬ Resembles name candidate) : Best name seen none
  | kept {found : String} (closest : FirstClosest name seen found) :
      Best name seen (some (found, nameDistance name found))

variable {seen : List String} {best : Option (String × Nat)}

theorem closerCandidate_of_not_resembles (unlike : ¬ Resembles name candidate)
    (best : Option (String × Nat)) : closerCandidate name best candidate = best := by
  unfold closerCandidate
  by_cases same : candidate = name
  · rw [if_pos same]
  · have far : suggestionReach name.length < editDistance name.toList candidate.toList :=
      Nat.lt_of_not_le fun reached => unlike ⟨same, reached⟩
    simp only [if_neg same, if_pos far, ite_self]

theorem closerCandidate_of_resembles (resembles : Resembles name candidate)
    (best : Option (String × Nat)) :
    closerCandidate name best candidate =
      if ∃ kept ∈ best, kept.2 ≤ nameDistance name candidate then best
      else some (candidate, nameDistance name candidate) := by
  have near : ¬ suggestionReach name.length < editDistance name.toList candidate.toList :=
    Nat.not_lt_of_le resembles.reached
  unfold closerCandidate
  simp only [if_neg resembles.other, if_neg (Nat.not_lt_of_le resembles.length_le), if_neg near]
  cases best <;> simp [nameDistance]

theorem Best.step (kept : Best name seen best) (candidate : String) :
    Best name (seen ++ [candidate]) (closerCandidate name best candidate) := by
  by_cases resembles : Resembles name candidate
  · rw [closerCandidate_of_resembles resembles]
    cases kept with
    | nothing unlike =>
        rw [if_neg (by simp)]
        refine .kept (FirstClosest.append_iff.mpr (.inr ⟨?_, ?_⟩))
        · exact fun other member like => absurd like (unlike other member)
        · exact FirstClosest.singleton_iff.mpr ⟨rfl, resembles⟩
    | @kept found closest =>
        split
        · rename_i held
          have least : nameDistance name found ≤ nameDistance name candidate := by simpa using held
          refine .kept (FirstClosest.append_iff.mpr (.inl ⟨closest, ?_⟩))
          exact List.forall_mem_singleton.mpr fun _ => least
        · rename_i replaced
          have less : nameDistance name candidate < nameDistance name found := by
            simpa using replaced
          refine .kept (FirstClosest.append_iff.mpr (.inr ⟨fun other member like => ?_, ?_⟩))
          · exact Nat.lt_of_lt_of_le less (closest.noCloser other member like)
          · exact FirstClosest.singleton_iff.mpr ⟨rfl, resembles⟩
  · rw [closerCandidate_of_not_resembles resembles]
    cases kept with
    | nothing unlike =>
        refine .nothing (List.forall_mem_append.mpr ⟨unlike, ?_⟩)
        exact List.forall_mem_singleton.mpr resembles
    | kept closest =>
        refine .kept (FirstClosest.append_iff.mpr (.inl ⟨closest, ?_⟩))
        exact List.forall_mem_singleton.mpr fun like => absurd like resembles

theorem Best.run (kept : Best name seen best) (candidates : List String) :
    Best name (seen ++ candidates) (candidates.foldl (closerCandidate name) best) := by
  induction candidates generalizing seen best with
  | nil => simpa using kept
  | cons candidate candidates ih => simpa using ih (kept.step candidate)

/-- The empty name has nothing within reach but itself. -/
theorem not_resembles_empty (candidate : String) : ¬ Resembles "" candidate := by
  intro resembles
  have same : nameDistance "" candidate = 0 := Nat.le_zero.mp resembles.reached
  have equal := editDistance_eq_zero_iff.mp same
  exact resembles.other (String.toList_inj.mp equal).symm

theorem suggest?_best (name : String) (candidates : List String) :
    ∃ best, Best name candidates best ∧ suggest? name candidates = best.map Prod.fst := by
  have start : Best name [] none := .nothing (List.forall_mem_nil _)
  unfold suggest?
  split
  · rename_i empty
    rw [String.isEmpty_iff] at empty
    subst empty
    exact ⟨none, .nothing fun candidate _ => not_resembles_empty candidate, rfl⟩
  · exact ⟨_, start.run candidates, rfl⟩

theorem suggest?_eq_none_iff :
    suggest? name candidates = none ↔ ∀ candidate ∈ candidates, ¬ Resembles name candidate := by
  rcases suggest?_best name candidates with ⟨best, kept, same⟩
  rw [same]
  cases kept with
  | nothing unlike => exact ⟨fun _ => unlike, fun _ => rfl⟩
  | kept closest =>
      refine ⟨fun absent => ?_, fun unlike => ?_⟩
      · cases absent
      · exact absurd closest.resembles (unlike _ closest.mem)

theorem suggest?_eq_some_iff :
    suggest? name candidates = some found ↔ FirstClosest name candidates found := by
  rcases suggest?_best name candidates with ⟨best, kept, same⟩
  rw [same]
  cases kept with
  | nothing unlike =>
      refine ⟨fun present => ?_, fun closest => ?_⟩
      · cases present
      · exact absurd closest.resembles (unlike _ closest.mem)
  | kept closest =>
      refine ⟨fun present => ?_, fun again => ?_⟩
      · cases present
        exact closest
      · exact congrArg some (closest.unique again)

example : suggest? "ab" ["ac", "ad"] = some "ac" := by decide

end Text

namespace Data

open Lexical (Keyword)
open Text (Farther FirstClosest NoCloser Resembles nameDistance suggest?)

/-- A name that is bound in a scope, or a reserved word. -/
def Heap.Known (heap : Heap) (scope : Scope) (name : String) : Prop :=
  (heap.lookup? scope name).isSome ∨ ∃ keyword : Keyword, keyword.spelling = name

/--
The name to offer for a misspelt one.  The first of the closest names of a table is offered if
all names of the tables inside it are farther away, and no other name or reserved word is
closer.  A reserved word is offered if all visible names are farther away.
-/
inductive Heap.Offered (heap : Heap) (scope : Scope) (name : String) : String → Prop
  | bound {found : String} {nearer farther : List TableId} {table : TableId}
      (place : scope.tables = nearer ++ table :: farther)
      (inside : ∀ other ∈ nearer, Farther name found (heap.table other).names)
      (closest : FirstClosest name (heap.table table).names found)
      (outside : ∀ other ∈ farther, NoCloser name found (heap.table other).names)
      (reserved : NoCloser name found (Keyword.all.map Keyword.spelling)) :
      Heap.Offered heap scope name found
  | reserved {found : String}
      (tables : ∀ table ∈ scope.tables, Farther name found (heap.table table).names)
      (closest : FirstClosest name (Keyword.all.map Keyword.spelling) found) :
      Heap.Offered heap scope name found

variable {heap : Heap} {scope : Scope} {name found : String}

theorem Heap.mem_visibleNames_iff :
    name ∈ heap.visibleNames scope ↔ (heap.lookup? scope name).isSome := by
  unfold Heap.visibleNames Heap.lookup?
  simp only [List.mem_flatMap, List.findSome?_isSome_iff, Bindings.mem_names_iff]

theorem Heap.known_iff : heap.Known scope name ↔
    name ∈ heap.visibleNames scope ++ Keyword.all.map Keyword.spelling := by
  rw [List.mem_append, Heap.mem_visibleNames_iff, List.mem_map, Heap.Known]
  simp only [Keyword.mem_all, true_and]

theorem Heap.suggest?_eq_some_iff :
    heap.suggest? scope name = some found ↔ heap.Offered scope name found := by
  unfold Heap.suggest? Heap.visibleNames
  rw [Text.suggest?_eq_some_iff, FirstClosest.append_iff, FirstClosest.flatMap_iff,
    Text.farther_flatMap]
  constructor
  · rintro (⟨⟨nearer, table, farther, place, inside, closest, outside⟩, reserved⟩ |
      ⟨tables, closest⟩)
    · exact .bound place inside closest outside reserved
    · exact .reserved tables closest
  · intro offered
    cases offered with
    | bound place inside closest outside reserved =>
        exact .inl ⟨⟨_, _, _, place, inside, closest, outside⟩, reserved⟩
    | reserved tables closest => exact .inr ⟨tables, closest⟩

/--
Suggestions are the first of the closest candidates.  For every name and all candidates in any
order, a candidate is suggested exactly if it is the first of least edit distance among those
that differ from the name and are within reach of it, and nothing is suggested exactly if
there are none.  Hence what is offered for a name in a scope is another name that is bound
there or a reserved word, and of several that are as close it is one of the innermost table
that has one, the first in the order of that table, before any reserved word.
-/
theorem suggestions_are_first_closest (name : String) :
    (∀ candidates found,
      suggest? name candidates = some found ↔ FirstClosest name candidates found) ∧
    (∀ candidates, suggest? name candidates = none ↔
      ∀ candidate ∈ candidates, ¬ Resembles name candidate) ∧
    (∀ (heap : Heap) scope found,
      heap.suggest? scope name = some found ↔ heap.Offered scope name found) ∧
    (∀ (heap : Heap) scope found, heap.suggest? scope name = some found →
      found ≠ name ∧ heap.Known scope found ∧
        ∀ other, heap.Known scope other → Resembles name other →
          nameDistance name found ≤ nameDistance name other) ∧
    ∀ (heap : Heap) scope, heap.suggest? scope name = none ↔
      ∀ other, heap.Known scope other → ¬ Resembles name other := by
  refine ⟨fun _ _ => Text.suggest?_eq_some_iff, fun _ => Text.suggest?_eq_none_iff,
    fun _ _ _ => Heap.suggest?_eq_some_iff, fun heap scope found suggested => ?_,
    fun heap scope => ?_⟩
  · have closest := Text.suggest?_eq_some_iff.mp suggested
    refine ⟨closest.resembles.other, Heap.known_iff.mpr closest.mem, fun other known => ?_⟩
    exact closest.noCloser other (Heap.known_iff.mp known)
  · simp only [Heap.known_iff]
    exact Text.suggest?_eq_none_iff

/-- A table inside another one, with a misspelt name in either. -/
def counters : Heap :=
  { tables := #[.ofList [("counter", .int 0), ("count", .int 1)],
      .ofList [("x", .int 2), ("countr", .int 3), ("counts", .int 4)]] }

/-- Four names are one edit away, and the first one of the inner table is offered. -/
theorem countr_is_first_closest :
    counters.suggest? ⟨⟨1⟩, [⟨0⟩]⟩ "counte" = some "countr" ∧
      counters.Offered ⟨⟨1⟩, [⟨0⟩]⟩ "counte" "countr" ∧
      counters.Known ⟨⟨1⟩, [⟨0⟩]⟩ "countr" := by
  have suggested : counters.suggest? ⟨⟨1⟩, [⟨0⟩]⟩ "counte" = some "countr" := by decide +kernel
  rcases suggestions_are_first_closest "counte" with ⟨-, -, offered, known, -⟩
  exact ⟨suggested, (offered _ _ _).mp suggested, (known _ _ _ suggested).2.1⟩

end Data
end Scripting
