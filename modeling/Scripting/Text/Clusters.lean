import Scripting.Text.ClusterClass

namespace Scripting
namespace Text

/-!
Texts in clusters: what a reader takes for one character.

Whether a character belongs to the cluster before it depends on the class of both
neighbours and, for flags, emoji and conjuncts, on how the cluster came about.
Every cluster is found in one pass, and nothing of the text is lost.
-/

/-- How far a conjunct of consonants has come. -/
inductive Conjunct where
  | none
  /-- A consonant stands last, perhaps with marks on it. -/
  | started
  /-- A linker asks for one more consonant. -/
  | linked
  deriving DecidableEq, Repr

/-- What the characters of a cluster say about the one after it. -/
structure ClusterEnd where
  /-- The class of the last character. -/
  last : ClusterClass
  /-- The cluster ends with an emoji, perhaps extended, perhaps about to be joined. -/
  emoji : Bool
  /-- The cluster ends with half of a flag that lacks the other half. -/
  halfFlag : Bool
  conjunct : Conjunct
  deriving DecidableEq, Repr

namespace ClusterEnd

/-- The end of a cluster of one character. -/
def first (c : Char) : ClusterEnd where
  last := classOf c
  emoji := classOf c = .pictograph
  halfFlag := classOf c = .flag
  conjunct := if classOf c = .consonant then .started else .none

/-- The state of a conjunct after one more character. -/
def conjunctAfter (before : ClusterEnd) (c : Char) : Conjunct :=
  if classOf c = .consonant then .started
  else if isLinker c then
    if before.conjunct = .none then .none else .linked
  else if classOf c = .joiner ∨ classOf c = .attaching ∧ c.toNat ≠ 0x200C then before.conjunct
  else .none

/-- The end of a cluster after one more character. -/
def add (before : ClusterEnd) (c : Char) : ClusterEnd where
  last := classOf c
  emoji :=
    match classOf c with
    | .pictograph => true
    | .attaching => before.emoji && before.last ≠ .joiner
    | .joiner => before.emoji && before.last ≠ .joiner
    | _ => false
  halfFlag := classOf c = .flag && !before.halfFlag
  conjunct := before.conjunctAfter c

/-- Whether a character belongs to the cluster before it. -/
def joins (before : ClusterEnd) (c : Char) : Bool :=
  match before.last, classOf c with
  | .carriageReturn, .lineFeed => true
  | .carriageReturn, _ | .lineFeed, _ | .control, _ => false
  | _, .carriageReturn | _, .lineFeed | _, .control => false
  | .initialSound, .initialSound | .initialSound, .middleSound => true
  | .initialSound, .openSyllable | .initialSound, .closedSyllable => true
  | .openSyllable, .middleSound | .openSyllable, .finalSound => true
  | .middleSound, .middleSound | .middleSound, .finalSound => true
  | .closedSyllable, .finalSound | .finalSound, .finalSound => true
  | _, .attaching | _, .joiner | _, .spacingMark => true
  | .leadingMark, _ => true
  | _, .consonant => before.conjunct = .linked
  | .joiner, .pictograph => before.emoji
  | .flag, .flag => before.halfFlag
  | _, _ => false

end ClusterEnd

/--
The clusters of a text, given those that are complete and the one that is not,
both with the last part first.
-/
def clustersFrom (complete : List (List Char)) (current : List Char) (before : ClusterEnd) :
    List Char → List (List Char)
  | [] => (current.reverse :: complete).reverse
  | c :: rest =>
      if before.joins c then clustersFrom complete (c :: current) (before.add c) rest
      else clustersFrom (current.reverse :: complete) [c] (.first c) rest

/-- The clusters of a text. -/
def clusters : List Char → List (List Char)
  | [] => []
  | c :: rest => clustersFrom [] [c] (.first c) rest

theorem flatten_clustersFrom (complete : List (List Char)) (current : List Char)
    (before : ClusterEnd) (text : List Char) :
    (clustersFrom complete current before text).flatten =
      complete.reverse.flatten ++ current.reverse ++ text := by
  induction text generalizing complete current before with
  | nil => simp [clustersFrom]
  | cons c rest induction =>
      unfold clustersFrom
      split
      · rw [induction]; simp
      · rw [induction]; simp

/-- The clusters of a text joined again are the text. -/
theorem flatten_clusters (text : List Char) : (clusters text).flatten = text := by
  cases text with
  | nil => rfl
  | cons c rest => simp [clusters, flatten_clustersFrom]

end Text
end Scripting
