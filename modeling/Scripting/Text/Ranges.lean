namespace Scripting
namespace Text

/-!
Sets of characters given by ranges of code points.

A property of characters that a standard defines by enumeration is kept as a
list of closed ranges.  The tables themselves stand in modules named for the
property; this module only says how a table is read.
-/

/-- Closed ranges of code points, in increasing order and without overlap. -/
abbrev Ranges := List (Nat × Nat)

/-- A character belongs to a table when its code point lies in one of the ranges. -/
def Ranges.contains (ranges : Ranges) (c : Char) : Bool :=
  ranges.any fun range => range.1 ≤ c.toNat && c.toNat ≤ range.2

/-- The ranges follow one another with a gap between neighbours. -/
def Ranges.Ordered : Ranges → Prop
  | [] => True
  | (low, high) :: rest =>
      low ≤ high ∧ (∀ next ∈ rest, high < next.1) ∧ Ordered rest

end Text
end Scripting
