import Mathlib.Tactic.Ring
import Scripting.Data.Arithmetic

namespace Scripting

/-!
Arithmetic on integers is exact.

A sum, a difference, a product or a power is the mathematical one where that is in
the range of integers, and an overflow where it is not.  Division is rounded down by
correcting the machine's division toward zero.  The corrections are made on machine
words, so what has to be shown of them is that neither of them can wrap: a quotient
is corrected only if the division left a remainder, and then it is not the least
integer; a remainder is corrected only by a divisor of the other sign.
-/

namespace Number

open Data (Fault)

/-- The integers that sixty-four bits can represent. -/
def InRange (n : Int) : Prop :=
  -2 ^ 63 ≤ n ∧ n ≤ 2 ^ 63 - 1

instance (n : Int) : Decidable (InRange n) :=
  inferInstanceAs (Decidable (_ ∧ _))

theorem inRange_toInt (word : Int64) : InRange word.toInt := by
  have least := Int64.le_toInt word
  have greatest := Int64.toInt_lt word
  constructor
  · exact least
  · omega

theorem fit?_of_inRange {n : Int} (range : InRange n) :
    ∃ word, fit? n = some word ∧ word.toInt = n := by
  unfold InRange at range
  cases fits : fit? n with
  | none =>
      have outside := fit?_eq_none_iff.mp fits
      omega
  | some word => exact ⟨word, rfl, toInt_of_fit? fits⟩

theorem fit?_toInt (word : Int64) : fit? word.toInt = some word := by
  rcases fit?_of_inRange (inRange_toInt word) with ⟨fitted, fits, same⟩
  rw [fits, Int64.toInt_inj.mp same]

theorem fit?_of_not_inRange {n : Int} (range : ¬ InRange n) : fit? n = none := by
  unfold InRange at range
  apply fit?_eq_none_iff.mpr
  omega

/-- A sum of words is exact if the sum of their values is in range. -/
theorem toInt_add_of_inRange {a b : Int64} (range : InRange (a.toInt + b.toInt)) :
    (a + b).toInt = a.toInt + b.toInt := by
  unfold InRange at range
  rw [Int64.toInt_add]
  apply Int.bmod_eq_of_le <;> omega

/-- A word less one is exact unless the word is the least one. -/
theorem toInt_sub_one_of_inRange {a : Int64} (range : InRange (a.toInt - 1)) :
    (a - 1).toInt = a.toInt - 1 := by
  unfold InRange at range
  have one : (1 : Int64).toInt = 1 := rfl
  rw [Int64.toInt_sub, one]
  apply Int.bmod_eq_of_le <;> omega

theorem inRange_neg {a : Int64} (notLeast : a ≠ Int64.minValue) : InRange (-a.toInt) := by
  have inside := inRange_toInt a
  have above : a.toInt ≠ Int64.minValue.toInt := mt Int64.toInt_inj.mp notLeast
  have least : Int64.minValue.toInt = -2 ^ 63 := rfl
  unfold InRange at *
  omega

/-- The negative of a word is exact except for the least word. -/
theorem toInt_neg_of_ne_least {a : Int64} (notLeast : a ≠ Int64.minValue) :
    (-a).toInt = -a.toInt := by
  have range := inRange_neg notLeast
  unfold InRange at range
  rw [Int64.toInt_neg]
  apply Int.bmod_eq_of_le <;> omega

theorem toInt_ne_zero {word : Int64} (nonzero : word ≠ 0) : word.toInt ≠ 0 := by
  intro zero
  apply nonzero
  exact Int64.toInt_inj.mp zero

/-! ### The machine's division -/

/-- A remainder toward zero is nearer to zero than the divisor and the dividend. -/
theorem natAbs_tmod_bounds (a : Int) {b : Int} (nonzero : b ≠ 0) :
    (a.tmod b).natAbs < b.natAbs ∧ (a.tmod b).natAbs ≤ a.natAbs := by
  rw [Int.natAbs_tmod]
  exact ⟨Nat.mod_lt _ (by omega), Nat.mod_le _ _⟩

/-- A remainder toward zero has the sign of the dividend. -/
theorem tmod_neg_iff {a b : Int} (leaves : a.tmod b ≠ 0) : a.tmod b < 0 ↔ a < 0 := by
  by_cases negative : a < 0
  · have flipped := Int.tmod_nonneg b (a := -a) (by omega)
    rw [Int.neg_tmod] at flipped
    omega
  · have nonnegative := Int.tmod_nonneg b (a := a) (by omega)
    omega

/-- Only the least integer divided by minus one leaves the range. -/
theorem inRange_tdiv_iff {a b : Int} (range : InRange a) (nonzero : b ≠ 0) :
    InRange (a.tdiv b) ↔ ¬ (a = -2 ^ 63 ∧ b = -1) := by
  unfold InRange at *
  have size : (a.tdiv b).natAbs = a.natAbs / b.natAbs := Int.natAbs_tdiv a b
  by_cases unit : b.natAbs = 1
  · rcases (show b = 1 ∨ b = -1 by omega) with rfl | rfl
    · rw [Int.tdiv_one]
      omega
    · rw [Int.tdiv_neg, Int.tdiv_one]
      omega
  · have halved : a.natAbs / b.natAbs ≤ a.natAbs / 2 :=
      Nat.div_le_div_left (by omega) (by decide)
    omega

/-- A division that leaves a remainder halves the dividend at least. -/
theorem inRange_tdiv_of_leaves {a b : Int} (range : InRange a) (nonzero : b ≠ 0)
    (leaves : a.tmod b ≠ 0) : InRange (a.tdiv b) ∧ InRange (a.tdiv b - 1) := by
  unfold InRange at *
  have size : (a.tdiv b).natAbs = a.natAbs / b.natAbs := Int.natAbs_tdiv a b
  have notUnit : b.natAbs ≠ 1 := by
    intro unit
    have small := (natAbs_tmod_bounds a nonzero).1
    omega
  have halved : a.natAbs / b.natAbs ≤ a.natAbs / 2 :=
    Nat.div_le_div_left (by omega) (by decide)
  omega

/-- Rounding down and rounding toward zero differ by one exactly where signs differ. -/
theorem fdiv_eq_corrected (a : Int) {b : Int} (nonzero : b ≠ 0) :
    a.fdiv b = if a.tmod b ≠ 0 ∧ (a < 0 ↔ ¬ b < 0) then a.tdiv b - 1 else a.tdiv b := by
  rw [Int.fdiv_eq_tdiv]
  simp only [Int.dvd_iff_tmod_eq_zero]
  rcases Int.lt_or_gt_of_ne nonzero with negative | positive
  · rw [Int.sign_eq_neg_one_of_neg negative]
    split_ifs <;> omega
  · rw [Int.sign_eq_one_of_pos positive]
    split_ifs <;> omega

theorem fmod_eq_corrected (a : Int) {b : Int} (nonzero : b ≠ 0) :
    a.fmod b = if a.tmod b ≠ 0 ∧ (a < 0 ↔ ¬ b < 0) then a.tmod b + b else a.tmod b := by
  rw [Int.fmod_def, fdiv_eq_corrected a nonzero, Int.tmod_def]
  split_ifs
  · ring
  · rfl

/-- The remainder of division rounded down has the sign of the divisor and is nearer to zero. -/
theorem fmod_bounds (a : Int) {b : Int} (nonzero : b ≠ 0) :
    (a.fmod b = 0 ∨ (a.fmod b < 0 ↔ b < 0)) ∧ (a.fmod b).natAbs < b.natAbs := by
  have small := (natAbs_tmod_bounds a nonzero).1
  rw [fmod_eq_corrected a nonzero]
  by_cases leaves : a.tmod b = 0
  · rw [if_neg (fun away => away.1 leaves)]
    omega
  · have sign := tmod_neg_iff leaves
    split_ifs with away <;> omega

/-! ### The words that are computed -/

theorem quotient?_eq_some {a b quotient : Int64} (some_ : quotient? a b = some quotient) :
    quotient.toInt = a.toInt.tdiv b.toInt := by
  unfold quotient? at some_
  split at some_
  · cases some_
  · exact toInt_of_fit? some_

theorem roundsAway_iff {a b : Int64} :
    roundsAway a b = true ↔
      a.toInt.tmod b.toInt ≠ 0 ∧ (a.toInt < 0 ↔ ¬ b.toInt < 0) := by
  have zero : (0 : Int64).toInt = 0 := rfl
  simp only [roundsAway, Bool.and_eq_true, decide_eq_true_eq, bne_iff_ne, ne_eq,
    Int64.lt_iff_toInt_lt, ← Int64.toInt_inj, Int64.toInt_mod, zero, decide_eq_decide]
  tauto

theorem missesSign_iff {a b : Int64} :
    missesSign (a % b) b = true ↔
      a.toInt.tmod b.toInt ≠ 0 ∧ (a.toInt < 0 ↔ ¬ b.toInt < 0) := by
  have zero : (0 : Int64).toInt = 0 := rfl
  simp only [missesSign, Bool.and_eq_true, decide_eq_true_eq, bne_iff_ne, ne_eq,
    Int64.lt_iff_toInt_lt, ← Int64.toInt_inj, Int64.toInt_mod, zero, decide_eq_decide]
  constructor
  · rintro ⟨leaves, differ⟩
    rw [tmod_neg_iff leaves] at differ
    exact ⟨leaves, by tauto⟩
  · rintro ⟨leaves, opposite⟩
    rw [tmod_neg_iff leaves]
    exact ⟨leaves, by tauto⟩

/-- The correction of a quotient does not wrap. -/
theorem toInt_corrected_quotient {a b quotient : Int64} (nonzero : b ≠ 0)
    (divided : quotient? a b = some quotient) (away : roundsAway a b = true) :
    (quotient - 1).toInt = quotient.toInt - 1 := by
  rw [roundsAway_iff] at away
  have leaves := away.1
  apply toInt_sub_one_of_inRange
  rw [quotient?_eq_some divided]
  exact (inRange_tdiv_of_leaves (inRange_toInt a) (toInt_ne_zero nonzero) leaves).2

/-- The correction of a remainder does not wrap: its operands differ in sign. -/
theorem toInt_corrected_rest {a b : Int64} (nonzero : b ≠ 0)
    (misses : missesSign (a % b) b = true) :
    (a % b + b).toInt = (a % b).toInt + b.toInt := by
  rw [missesSign_iff] at misses
  rcases misses with ⟨leaves, opposite⟩
  have sign := tmod_neg_iff leaves
  have small := (natAbs_tmod_bounds a.toInt (toInt_ne_zero nonzero)).1
  have range := inRange_toInt b
  apply toInt_add_of_inRange
  rw [Int64.toInt_mod]
  unfold InRange at *
  omega

/-- The corrected quotient is the one rounded down, and exists where that is in range. -/
theorem floorQuotient?_eq (a : Int64) {b : Int64} (nonzero : b ≠ 0) :
    floorQuotient? a b = fit? (a.toInt.fdiv b.toInt) := by
  have divisor := toInt_ne_zero nonzero
  rw [fdiv_eq_corrected a.toInt divisor]
  unfold floorQuotient?
  cases divided : quotient? a b with
  | none =>
      have outside : fit? (a.toInt.tdiv b.toInt) = none := by
        rw [← divided, quotient?, if_neg nonzero]
      -- Only an exact division leaves the range, and there is nothing to correct in it.
      have exactly : ¬ (a.toInt.tmod b.toInt ≠ 0 ∧ (a.toInt < 0 ↔ ¬ b.toInt < 0)) := by
        rintro ⟨leaves, -⟩
        have range := (inRange_tdiv_of_leaves (inRange_toInt a) divisor leaves).1
        rcases fit?_of_inRange range with ⟨word, fits, -⟩
        rw [outside] at fits
        cases fits
      rw [if_neg exactly, outside]
      rfl
  | some quotient =>
      have value := quotient?_eq_some divided
      have condition := @roundsAway_iff a b
      by_cases away : roundsAway a b = true
      · rw [Option.map_some, if_pos away, if_pos (condition.mp away), ← value,
          ← toInt_corrected_quotient nonzero divided away, fit?_toInt]
      · rw [Option.map_some, if_neg away, if_neg (mt condition.mpr away), ← value, fit?_toInt]

theorem toInt_floorRemainder (a : Int64) {b : Int64} (nonzero : b ≠ 0) :
    (floorRemainder a b).toInt = a.toInt.fmod b.toInt := by
  rw [fmod_eq_corrected a.toInt (toInt_ne_zero nonzero)]
  unfold floorRemainder
  have condition := @missesSign_iff a b
  by_cases misses : missesSign (a % b) b = true
  · rw [if_pos misses, if_pos (condition.mp misses), toInt_corrected_rest nonzero misses,
      Int64.toInt_mod]
  · rw [if_neg misses, if_neg (mt condition.mpr misses), Int64.toInt_mod]

end Number

namespace Number

/-! ### Powers -/

/-- What is out of range stays there, multiplied by anything that is not next to zero. -/
theorem not_inRange_mul_pow {factor n : Int} (large : 2 ≤ factor.natAbs) (outside : ¬ InRange n)
    (count : Nat) : ¬ InRange (n * factor ^ count) := by
  cases count with
  | zero => simpa using outside
  | succ count =>
      intro range
      unfold InRange at outside range
      have beyond : 2 ^ 63 ≤ n.natAbs := by omega
      have least : 2 ^ 63 * 2 ≤ (n * factor ^ (count + 1)).natAbs :=
        calc 2 ^ 63 * 2 ≤ n.natAbs * factor.natAbs := Nat.mul_le_mul beyond large
          _ ≤ n.natAbs * factor.natAbs ^ (count + 1) :=
              Nat.mul_le_mul_left _ (Nat.le_self_pow (Nat.succ_ne_zero count) _)
          _ = (n * factor ^ (count + 1)).natAbs := by rw [Int.natAbs_mul, Int.natAbs_pow]
      omega

/-- A product that leaves the range on the way is out of range at the end. -/
theorem multiply?_eq {factor : Int} (large : 2 ≤ factor.natAbs) (count : Nat) (product : Int) :
    multiply? factor count product = fit? (product * factor ^ count) := by
  induction count generalizing product with
  | zero => rw [multiply?, pow_zero, mul_one]
  | succ count ih =>
      have regrouped : product * factor ^ (count + 1) = product * factor * factor ^ count := by
        ring
      rw [multiply?, regrouped]
      cases fits : fit? (product * factor) with
      | some word =>
          simp only
          rw [ih, toInt_of_fit? fits]
      | none =>
          have outside : ¬ InRange (product * factor) := by
            have beyond := fit?_eq_none_iff.mp fits
            unfold InRange
            omega
          exact (fit?_of_not_inRange (not_inRange_mul_pow large outside count)).symm

/-- A power with an exponent of sixty-four or more is out of range unless its base is next to zero. -/
theorem not_inRange_pow {base : Int} {exponent : Nat} (large : 2 ≤ base.natAbs)
    (long : 64 ≤ exponent) : ¬ InRange (base ^ exponent) := by
  intro range
  unfold InRange at range
  have least : 2 ^ 64 ≤ base.natAbs ^ exponent :=
    calc 2 ^ 64 ≤ 2 ^ exponent := Nat.pow_le_pow_right (by decide) long
      _ ≤ base.natAbs ^ exponent := Nat.pow_le_pow_left large exponent
  rw [← Int.natAbs_pow] at least
  omega

/-- The bound on the exponent excludes no power that is in range. -/
theorem power?_eq {base : Int} (large : 2 ≤ base.natAbs) (exponent : Int) :
    power? base exponent = fit? (base ^ exponent.toNat) := by
  unfold power?
  split
  · rw [multiply?_eq large, one_mul]
  · exact (fit?_of_not_inRange (not_inRange_pow large (by omega))).symm

end Number

namespace Data

open Number (InRange)
open Program (BinaryOp)

/-! ### Outcomes of operators -/

/-- An outcome that is a given integer where it is in range, and an overflow elsewhere. -/
structure Exactly (n : Int) (outcome : Except Fault Product) : Prop where
  represented : InRange n → ∃ word : Int64, outcome = .ok (.value (.int word)) ∧ word.toInt = n
  overflows : ¬ InRange n → ∃ fault : Fault, outcome = .error fault ∧ fault.kind = .overflow

theorem exact_exactly (op : BinaryOp) (n : Int) : Exactly n (exact op n) where
  represented range := by
    rcases Number.fit?_of_inRange range with ⟨word, fits, value⟩
    exact ⟨word, by rw [exact, fits]; rfl, value⟩
  overflows range := by
    refine ⟨.tooLarge op.spelling, ?_, rfl⟩
    rw [exact, Number.fit?_of_not_inRange range]
    rfl

theorem unit_pow {base : Int} (unit : base = 0 ∨ base = 1) (exponent : Nat) :
    base ^ exponent = if exponent = 0 then 1 else base := by
  split_ifs with zero
  · rw [zero, pow_zero]
  · rcases unit with rfl | rfl
    · exact zero_pow zero
    · exact one_pow exponent

theorem integerPower_exactly (base : Int) {exponent : Int} (nonnegative : 0 ≤ exponent) :
    Exactly (base ^ exponent.toNat) (integerPower base exponent) := by
  unfold integerPower
  by_cases unit : base = 0 ∨ base = 1
  · have zero : exponent.toNat = 0 ↔ exponent = 0 := by omega
    rw [if_pos unit, unit_pow unit]
    simp only [zero]
    exact exact_exactly _ _
  rw [if_neg unit]
  by_cases minus : base = -1
  · have value : base ^ exponent.toNat = if exponent % 2 = 0 then 1 else -1 := by
      rw [minus]
      split_ifs with even
      · exact Even.neg_one_pow (Nat.even_iff.mpr (by omega))
      · exact Odd.neg_one_pow (Nat.odd_iff.mpr (by omega))
    rw [if_pos minus, value]
    exact exact_exactly _ _
  rw [if_neg minus, Number.power?_eq (by omega)]
  exact exact_exactly _ _

/-- The quotient rounded down leaves the range in one case only. -/
theorem inRange_fdiv_iff {a b : Int} (range : InRange a) (nonzero : b ≠ 0) :
    InRange (a.fdiv b) ↔ ¬ (a = -2 ^ 63 ∧ b = -1) := by
  rw [Number.fdiv_eq_corrected a nonzero, ← Number.inRange_tdiv_iff range nonzero]
  split_ifs with away
  · have both := Number.inRange_tdiv_of_leaves range nonzero away.1
    exact iff_of_true both.2 both.1
  · rfl

/-- Division rounded down of two integers, the divisor not being zero. -/
structure DividesDown (heap : Heap) (a b : Int64) : Prop where
  quotient : Exactly (a.toInt.fdiv b.toInt) (heap.binary .floorDiv (.int a) (.int b))
  quotient_inRange : InRange (a.toInt.fdiv b.toInt) ↔ ¬ (a = Int64.minValue ∧ b = -1)
  rest : ∃ rest : Int64, heap.binary .mod (.int a) (.int b) = .ok (.value (.int rest)) ∧
    rest.toInt = a.toInt.fmod b.toInt ∧ (rest = 0 ∨ (rest < 0 ↔ b < 0)) ∧
    rest.toInt.natAbs < b.toInt.natAbs

/-- The steps of division rounded down, each of which the machine carries out exactly. -/
structure StepsExact (a b : Int64) : Prop where
  quotient : ∀ quotient, Number.quotient? a b = some quotient →
    quotient.toInt = a.toInt.tdiv b.toInt
  corrected : ∀ quotient, Number.quotient? a b = some quotient →
    Number.roundsAway a b = true → (quotient - 1).toInt = quotient.toInt - 1
  rest : (a % b).toInt = a.toInt.tmod b.toInt
  completed : Number.missesSign (a % b) b = true →
    (a % b + b).toInt = (a % b).toInt + b.toInt

theorem dividesDown (heap : Heap) (a : Int64) {b : Int64} (nonzero : b ≠ 0) :
    DividesDown heap a b := by
  have divisor := Number.toInt_ne_zero nonzero
  constructor
  case quotient =>
    have same : heap.binary .floorDiv (.int a) (.int b)
        = exact .floorDiv (a.toInt.fdiv b.toInt) := by
      simp only [Heap.binary, Heap.floorDiv, if_neg nonzero, Number.floorQuotient?_eq a nonzero,
        exact]
    rw [same]
    exact exact_exactly _ _
  case quotient_inRange =>
    rw [inRange_fdiv_iff (Number.inRange_toInt a) divisor, ← Int64.toInt_inj, ← Int64.toInt_inj]
    rfl
  case rest =>
    have value := Number.toInt_floorRemainder a nonzero
    have bounds := Number.fmod_bounds a.toInt divisor
    rw [← value] at bounds
    refine ⟨Number.floorRemainder a b, ?_, value, ?_, bounds.2⟩
    · simp only [Heap.binary, Heap.mod, if_neg nonzero]
    · rw [Int64.lt_iff_toInt_lt, Int64.lt_iff_toInt_lt, ← Int64.toInt_inj]
      exact bounds.1

theorem stepsExact (a : Int64) {b : Int64} (nonzero : b ≠ 0) : StepsExact a b where
  quotient _ divided := Number.quotient?_eq_some divided
  corrected _ divided away := Number.toInt_corrected_quotient nonzero divided away
  rest := Int64.toInt_mod a b
  completed misses := Number.toInt_corrected_rest nonzero misses

/-- The quotient and the remainder make up the dividend. -/
theorem DividesDown.identity {heap : Heap} {a b quotient rest : Int64}
    (divides : DividesDown heap a b)
    (divided : heap.binary .floorDiv (.int a) (.int b) = .ok (.value (.int quotient)))
    (left : heap.binary .mod (.int a) (.int b) = .ok (.value (.int rest))) :
    a.toInt = b.toInt * quotient.toInt + rest.toInt := by
  have quotientValue : quotient.toInt = a.toInt.fdiv b.toInt := by
    by_cases range : InRange (a.toInt.fdiv b.toInt)
    · rcases divides.quotient.represented range with ⟨word, outcome, value⟩
      rw [divided] at outcome
      cases outcome
      exact value
    · rcases divides.quotient.overflows range with ⟨fault, outcome, -⟩
      rw [divided] at outcome
      cases outcome
  have restValue : rest.toInt = a.toInt.fmod b.toInt := by
    rcases divides.rest with ⟨word, outcome, value, -⟩
    rw [left] at outcome
    cases outcome
    exact value
  rw [quotientValue, restValue, Int.mul_fdiv_add_fmod]

/-- Division of integers has an arithmetic fault for the divisor zero alone. -/
theorem arithmetic_fault_iff (heap : Heap) (a b : Int64) {op : BinaryOp}
    (division : op = .floorDiv ∨ op = .mod) :
    (∃ fault, heap.binary op (.int a) (.int b) = .error fault ∧ fault.kind = .arithmetic) ↔
      b = 0 := by
  constructor
  · rintro ⟨fault, failed, kind⟩
    by_contra nonzero
    rcases division with rfl | rfl
    · have quotient := (dividesDown heap a nonzero).quotient
      by_cases range : InRange (a.toInt.fdiv b.toInt)
      · rcases quotient.represented range with ⟨word, outcome, -⟩
        rw [failed] at outcome
        cases outcome
      · rcases quotient.overflows range with ⟨other, outcome, overflow⟩
        rw [failed] at outcome
        cases outcome
        rw [kind] at overflow
        cases overflow
    · rcases (dividesDown heap a nonzero).rest with ⟨word, outcome, -⟩
      rw [failed] at outcome
      cases outcome
  · rintro rfl
    rcases division with rfl | rfl
    · exact ⟨.integerDivisionByZero, rfl, rfl⟩
    · exact ⟨.moduloByZero, rfl, rfl⟩

/-- The negative of an integer is exact, and missing only for the least integer. -/
theorem negation_exact (heap : Heap) (a : Int64) :
    (a ≠ Int64.minValue →
      ∃ word, heap.unary .neg (.int a) = .ok (.int word) ∧ word.toInt = -a.toInt) ∧
    (a = Int64.minValue →
      ∃ fault, heap.unary .neg (.int a) = .error fault ∧ fault.kind = .overflow) := by
  constructor
  · intro notLeast
    rcases Number.fit?_of_inRange (Number.inRange_neg notLeast) with ⟨word, fits, value⟩
    exact ⟨word, by simp only [Heap.unary, fits], value⟩
  · rintro rfl
    exact ⟨_, rfl, rfl⟩

/--
Arithmetic on any two integers.  Sums, differences, products and powers are exact or
overflow; division fails with an arithmetic fault for the divisor zero alone and is
otherwise the one rounded down, none of whose steps wraps; and only the least integer
has no negative.
-/
theorem integer_arithmetic_exact (heap : Heap) (a b : Int64) :
    Exactly (a.toInt + b.toInt) (heap.binary .add (.int a) (.int b)) ∧
    Exactly (a.toInt - b.toInt) (heap.binary .sub (.int a) (.int b)) ∧
    Exactly (a.toInt * b.toInt) (heap.binary .mul (.int a) (.int b)) ∧
    (0 ≤ b.toInt →
      Exactly (a.toInt ^ b.toInt.toNat) (heap.binary .pow (.int a) (.int b))) ∧
    (∀ op, op = .floorDiv ∨ op = .mod →
      ((∃ fault, heap.binary op (.int a) (.int b) = .error fault ∧ fault.kind = .arithmetic) ↔
        b = 0)) ∧
    (b ≠ 0 → DividesDown heap a b ∧ StepsExact a b) ∧
    (∀ quotient rest,
      heap.binary .floorDiv (.int a) (.int b) = .ok (.value (.int quotient)) →
      heap.binary .mod (.int a) (.int b) = .ok (.value (.int rest)) →
      a.toInt = b.toInt * quotient.toInt + rest.toInt) ∧
    (a ≠ Int64.minValue →
      ∃ word, heap.unary .neg (.int a) = .ok (.int word) ∧ word.toInt = -a.toInt) ∧
    (a = Int64.minValue →
      ∃ fault, heap.unary .neg (.int a) = .error fault ∧ fault.kind = .overflow) := by
  refine ⟨exact_exactly _ _, exact_exactly _ _, exact_exactly _ _, ?power,
    fun op division => arithmetic_fault_iff heap a b division, ?division, ?identity,
    negation_exact heap a⟩
  case power =>
    intro nonnegative
    have same : heap.binary .pow (.int a) (.int b) = integerPower a.toInt b.toInt := by
      simp only [Heap.binary, Heap.pow, if_pos nonnegative]
    rw [same]
    exact integerPower_exactly a.toInt nonnegative
  case division =>
    intro nonzero
    exact ⟨dividesDown heap a nonzero, stepsExact a nonzero⟩
  case identity =>
    intro quotient rest divided left
    have nonzero : b ≠ 0 := by
      rintro rfl
      cases divided
    exact (dividesDown heap a nonzero).identity divided left

/-- Seven below zero divided by two, where both results have to be corrected. -/
theorem minus_seven_divides_down :
    (2 : Int64) ≠ 0 ∧ DividesDown {} (-7) 2 ∧ StepsExact (-7) 2 ∧
      Number.floorQuotient? (-7) 2 = some (-4) ∧ Number.floorRemainder (-7) 2 = 1 := by
  have exactly := integer_arithmetic_exact {} (-7) 2
  have nonzero : (2 : Int64) ≠ 0 := by decide
  rcases exactly.2.2.2.2.2.1 nonzero with ⟨divides, steps⟩
  exact ⟨nonzero, divides, steps, by decide, by decide⟩

end Data
end Scripting
