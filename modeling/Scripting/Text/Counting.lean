namespace Scripting
namespace Text

/-!
Numbers inside messages: ordinal words and the plural.
-/

/-- The ordinal of a position counted from one: words up to ten, then numerals. -/
def ordinal (n : Nat) : String :=
  match n with
  | 1 => "first"
  | 2 => "second"
  | 3 => "third"
  | 4 => "fourth"
  | 5 => "fifth"
  | 6 => "sixth"
  | 7 => "seventh"
  | 8 => "eighth"
  | 9 => "ninth"
  | 10 => "tenth"
  | n =>
      let ending :=
        if 11 ≤ n % 100 ∧ n % 100 ≤ 13 then "th"
        else if n % 10 = 1 then "st"
        else if n % 10 = 2 then "nd"
        else if n % 10 = 3 then "rd"
        else "th"
      s!"{n}{ending}"

/-- The ending of a noun that a count precedes. -/
def plural (n : Nat) : String :=
  if n = 1 then "" else "s"

end Text
end Scripting
