import Scripting.Text.Clusters

namespace Scripting
namespace Text

/-!
Lines in which a backspace erases what stands before it.

A backspace takes away the last cluster that is left.  The length of a cluster in
bytes is remembered in a single byte, so that of a cluster longer than that only
the remainder goes.
-/

def backspace : Char := '\x08'

/-- A line while it is typed. -/
structure TypedLine where
  /-- The characters that are left, the last one first. -/
  reversed : List Char := []
  /-- How many bytes to take away for each cluster, the last one first. -/
  sizes : List Nat := []
  deriving DecidableEq, Repr

/-- Characters without some bytes at the front. -/
def dropBytes (count : Nat) : List Char → List Char
  | [] => []
  | c :: rest => if count = 0 then c :: rest else dropBytes (count - c.utf8Size) rest

namespace TypedLine

/-- Take away the last cluster. -/
def erase (line : TypedLine) : TypedLine :=
  match line.sizes with
  | [] => line
  | size :: rest => ⟨dropBytes size line.reversed, rest⟩

/-- Put in one more cluster, which may be a backspace. -/
def put (line : TypedLine) (cluster : List Char) : TypedLine :=
  if cluster = [backspace] then line.erase
  else
    let size := (String.ofList cluster).utf8ByteSize % 256
    ⟨cluster.reverse ++ line.reversed, size :: line.sizes⟩

theorem reversed_foldl_put (clusters : List (List Char)) (line : TypedLine)
    (plain : ∀ cluster ∈ clusters, cluster ≠ [backspace]) :
    (clusters.foldl put line).reversed = clusters.flatten.reverse ++ line.reversed := by
  induction clusters generalizing line with
  | nil => simp
  | cons cluster rest induction =>
      rw [List.foldl_cons, induction _ fun other member =>
        plain other (List.mem_cons_of_mem _ member)]
      have here : cluster ≠ [backspace] := plain cluster List.mem_cons_self
      simp [put, here]

end TypedLine

/-- What is left of a line when every backspace has done its work. -/
def withoutErased (text : List Char) : List Char :=
  ((clusters text).foldl TypedLine.put {}).reversed.reverse

/-- Without a backspace nothing is erased. -/
theorem withoutErased_of_plain (text : List Char) (plain : backspace ∉ text) :
    withoutErased text = text := by
  have apart : ∀ cluster ∈ clusters text, cluster ≠ [backspace] := by
    intro cluster member same
    apply plain
    rw [← flatten_clusters text]
    exact List.mem_flatten.mpr ⟨cluster, member, by simp [same]⟩
  simp [withoutErased, TypedLine.reversed_foldl_put _ _ apart, flatten_clusters]

end Text
end Scripting
