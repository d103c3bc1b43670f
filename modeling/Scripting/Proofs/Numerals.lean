import Mathlib.Data.List.Induction
import Scripting.Number.Bounded

namespace Scripting
namespace Number

/-!
Numbers in positional notation.

A numeral is a string of digits of some base, the most significant first.  Which characters
are digits and what a numeral stands for is said here by the characters that digits are
written with, and not by the ranges of characters that a reader asks for.  In bases up to
sixteen, readers find the same digits and the same value.
-/

variable {base value n : Nat} {c : Char} {digits : List Char}

/-- A character that a number below the base is written with, a small or a capital letter. -/
inductive Digit (base : Nat) : Char → Nat → Prop
  | small {n : Nat} (below : n < base) : Digit base (Nat.digitChar n) n
  | capital {n : Nat} (below : n < base) : Digit base (Nat.digitChar n).toUpper n

/-- A string of digits and its value.  Zeros may stand before the other digits. -/
inductive Numeral (base : Nat) : List Char → Nat → Prop
  | nothing : Numeral base [] 0
  | digit {digits : List Char} {value n : Nat} {c : Char} (earlier : Numeral base digits value)
      (last : Digit base c n) : Numeral base (digits ++ [c]) (base * value + n)

/-- In every base other than zero and one, every number has a numeral. -/
theorem exists_numeral (two : 2 ≤ base) (value : Nat) :
    ∃ digits, digits ≠ [] ∧ Numeral base digits value := by
  induction value using Nat.strongRecOn with
  | _ value ih =>
      have last : Digit base (Nat.digitChar (value % base)) (value % base) :=
        .small (Nat.mod_lt _ (by omega))
      have whole := Nat.div_add_mod value base
      by_cases low : value < base
      · have one := Numeral.digit .nothing last
        rw [Nat.div_eq_of_lt low] at whole
        rw [whole] at one
        exact ⟨_, by simp, one⟩
      · have less : value / base < value := Nat.div_lt_self (by omega) two
        rcases ih _ less with ⟨digits, -, earlier⟩
        have further := earlier.digit last
        rw [whole] at further
        exact ⟨_, by simp, further⟩

/-! ## Digits as readers find them -/

theorem digit?_digitChar :
    ∀ n < 16, digit? (Nat.digitChar n) = some n ∧ digit? (Nat.digitChar n).toUpper = some n := by
  decide

theorem Digit.digit?_eq (digit : Digit base c n) (small : base ≤ 16) : digit? c = some n := by
  cases digit with
  | small below => exact (digit?_digitChar n (by omega)).1
  | capital below => exact (digit?_digitChar n (by omega)).2

theorem Digit.below (digit : Digit base c n) : n < base := by
  cases digit with
  | small below => exact below
  | capital below => exact below

theorem Digit.isDigitOf (digit : Digit base c n) (small : base ≤ 16) :
    isDigitOf base c = true := by
  simp only [Number.isDigitOf, digit.digit?_eq small, digit.below, decide_true]

theorem digitChar_of_digit? : ∀ code < 128, ∀ n ∈ digit? (Char.ofNat code),
    Char.ofNat code = Nat.digitChar n ∨ Char.ofNat code = (Nat.digitChar n).toUpper := by
  decide

theorem ascii_of_digit? (found : digit? c = some n) : c.toNat < 128 := by
  unfold digit? at found
  split at found
  · rename_i range
    exact Nat.lt_of_le_of_lt range.2 (by decide)
  · split at found
    · rename_i range
      exact Nat.lt_of_le_of_lt range.2 (by decide)
    · split at found
      · rename_i range
        exact Nat.lt_of_le_of_lt range.2 (by decide)
      · cases found

/-- Readers take no other characters for digits. -/
theorem exists_digit (found : isDigitOf base c = true) : ∃ n, Digit base c n := by
  unfold Number.isDigitOf at found
  split at found
  · rename_i n read
    have below : n < base := of_decide_eq_true found
    have written := digitChar_of_digit? c.toNat (ascii_of_digit? read) n
    rw [Char.ofNat_toNat] at written
    rcases written read with rfl | rfl
    · exact ⟨n, .small below⟩
    · exact ⟨n, .capital below⟩
  · cases found

/-- A digit behind others makes their value count for as many times more as the base is. -/
theorem textValue_concat (base : Nat) (digits : List Char) (c : Char) :
    textValue base (digits ++ [c]) = base * textValue base digits + (digit? c).getD 0 := by
  unfold textValue digitsValue
  rw [List.map_append, List.foldl_append, List.map_singleton]
  rfl

theorem Numeral.isDigitOf (numeral : Numeral base digits value) (small : base ≤ 16) :
    ∀ c ∈ digits, isDigitOf base c = true := by
  induction numeral with
  | nothing => exact List.forall_mem_nil _
  | digit _ last ih =>
      intro c member
      rcases List.mem_append.mp member with earlier | here
      · exact ih c earlier
      · rw [List.mem_singleton.mp here]
        exact last.isDigitOf small

theorem Numeral.textValue_eq (numeral : Numeral base digits value) (small : base ≤ 16) :
    textValue base digits = value := by
  induction numeral with
  | nothing => rfl
  | digit _ last ih => rw [textValue_concat, ih, last.digit?_eq small, Option.getD_some]

theorem numeral_textValue (small : base ≤ 16) (all : ∀ c ∈ digits, isDigitOf base c = true) :
    Numeral base digits (textValue base digits) := by
  induction digits using List.reverseRecOn with
  | nil => exact .nothing
  | append_singleton digits c ih =>
      rcases exists_digit (all c (List.mem_append_right _ List.mem_cons_self)) with ⟨n, last⟩
      rw [textValue_concat, last.digit?_eq small]
      exact (ih fun d member => all d (List.mem_append_left _ member)).digit last

/-- Readers find the numerals, and their values. -/
theorem numeral_iff (small : base ≤ 16) : Numeral base digits value ↔
    (∀ c ∈ digits, isDigitOf base c = true) ∧ textValue base digits = value := by
  constructor
  · intro numeral
    exact ⟨numeral.isDigitOf small, numeral.textValue_eq small⟩
  · rintro ⟨all, rfl⟩
    exact numeral_textValue small all

end Number
end Scripting
