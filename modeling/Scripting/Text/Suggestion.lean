import Scripting.Text.EditDistance

namespace Scripting
namespace Text

/-!
Suggestions for a misspelt name.

Short names are only matched by near-identical candidates, so the distance that
is still worth a suggestion grows with the length of the name.
-/

/-- The largest edit distance worth suggesting for a name of the given length. -/
def suggestionReach (length : Nat) : Nat :=
  if length = 0 then 0
  else if length ≤ 2 then 1
  else if length ≤ 5 then 2
  else if length ≤ 10 then 3
  else min (length / 2) 5

/--
Keep the better of the best candidate so far and a new one.  A candidate equal
to the name, or out of reach, is passed over; an equally close one does not
replace an earlier one.
-/
def closerCandidate (name : String) (best : Option (String × Nat)) (candidate : String) :
    Option (String × Nat) :=
  let reach := suggestionReach name.length
  if candidate = name then best
  else if reach < max (name.length - candidate.length) (candidate.length - name.length) then best
  else
    let distance := editDistance name.toList candidate.toList
    if reach < distance then best
    else
      match best with
      | some (_, bestDistance) => if bestDistance ≤ distance then best else some (candidate, distance)
      | none => some (candidate, distance)

/-- The first of the closest candidates within reach of a non-empty name. -/
def suggest? (name : String) (candidates : List String) : Option String :=
  if name.isEmpty then none
  else (candidates.foldl (closerCandidate name) none).map Prod.fst

end Text
end Scripting
