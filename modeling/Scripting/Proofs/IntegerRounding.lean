import Mathlib
import Scripting.Data.Comparison

namespace Scripting

/-!
Integers as floating-point numbers.

An integer is rounded to fifty-three bits.  The bits of the result, exponent before fraction, are
one natural number that grows with the magnitude: within a power of two the fraction does not
fall, and a carry past it moves into the exponent.  Two floating-point numbers are in the order of
these numbers, with their signs.  So no integer becomes less than a smaller one, but neighbours of
large magnitude may become the same number.
-/

namespace Number

open Float.Model (UnpackedFloat)
open Float.Model.UnpackedFloat (Sign)

/-! ## Rounding -/

theorem roundHalfEven_bounds (numerator denominator : Nat) :
    numerator / denominator ≤ roundHalfEven numerator denominator ∧
      roundHalfEven numerator denominator ≤ numerator / denominator + 1 := by
  unfold roundHalfEven
  dsimp only
  split_ifs <;> omega

/-- A quotient that has been rounded does not fall when its numerator grows. -/
theorem roundHalfEven_mono {less more : Nat} (le : less ≤ more) (denominator : Nat) :
    roundHalfEven less denominator ≤ roundHalfEven more denominator := by
  have quotients : less / denominator ≤ more / denominator := Nat.div_le_div_right le
  rcases Nat.lt_or_eq_of_le quotients with lt | same
  · have least := (roundHalfEven_bounds more denominator).1
    have greatest := (roundHalfEven_bounds less denominator).2
    omega
  · have rests : less % denominator ≤ more % denominator := by
      have first := Nat.div_add_mod less denominator
      have second := Nat.div_add_mod more denominator
      rw [same] at first
      omega
    unfold roundHalfEven
    dsimp only
    rw [same]
    split_ifs <;> omega

theorem roundHalfEven_exact (quotient : Nat) {denominator : Nat} (positive : 0 < denominator) :
    roundHalfEven (quotient * denominator) denominator = quotient := by
  unfold roundHalfEven
  rw [Nat.mul_mod_left, Nat.mul_div_cancel _ positive]
  exact if_pos positive

/-- Rounding depends on the quotient alone. -/
theorem roundHalfEven_scaled (numerator denominator : Nat) {factor : Nat} (positive : 0 < factor) :
    roundHalfEven (numerator * factor) (denominator * factor) =
      roundHalfEven numerator denominator := by
  have less : 2 * (numerator % denominator * factor) < denominator * factor ↔
      2 * (numerator % denominator) < denominator := by
    rw [← Nat.mul_assoc, Nat.mul_lt_mul_right positive]
  have more : denominator * factor < 2 * (numerator % denominator * factor) ↔
      denominator < 2 * (numerator % denominator) := by
    rw [← Nat.mul_assoc, Nat.mul_lt_mul_right positive]
  unfold roundHalfEven
  dsimp only
  rw [Nat.mul_div_mul_right _ _ positive, Nat.mul_mod_mul_right]
  simp only [less, more]

/-! ## The bits of an integer -/

/-- The magnitude rounded to fifty-three bits. -/
def integerMantissa (magnitude : Nat) : Nat :=
  roundHalfEven (magnitude * fractionCount) (Nat.pow 2 magnitude.log2)

/-- The exponent and the fraction of a magnitude, as one number. -/
def integerBits (magnitude : Nat) : Nat :=
  if magnitude = 0 then 0
  else (magnitude.log2 + 1022) * fractionCount + integerMantissa magnitude

/-- A whole number as a quotient of a power of two, for which it has fifty-three bits. -/
theorem scaleDown_integer (magnitude length : Nat) :
    scaleDown magnitude 1 ((length : Int) - 52) =
      (magnitude * Nat.pow 2 (52 - length), Nat.pow 2 (length - 52)) := by
  rcases Nat.lt_or_ge length 52 with short | long
  · rcases Nat.exists_eq_add_of_lt short with ⟨missing, split⟩
    have exponent : (length : Int) - 52 = Int.negSucc missing := by omega
    have up : 52 - length = missing + 1 := by omega
    have down : length - 52 = 0 := by omega
    rw [exponent, up, down]
    rfl
  · rcases Nat.exists_eq_add_of_le long with ⟨surplus, rfl⟩
    have exponent : ((52 + surplus : Nat) : Int) - 52 = Int.ofNat surplus := by
      rw [Int.ofNat_eq_natCast]
      omega
    have up : 52 - (52 + surplus) = 0 := by omega
    have down : 52 + surplus - 52 = surplus := by omega
    rw [exponent, up, down]
    change (magnitude, 1 * Nat.pow 2 surplus) = _
    rw [Nat.one_mul]
    exact congrArg (·, _) (Nat.mul_one magnitude).symm

theorem pow_split (length : Nat) :
    Nat.pow 2 (52 - length) * Nat.pow 2 length = fractionCount * Nat.pow 2 (length - 52) := by
  have count : fractionCount = 2 ^ 52 := rfl
  change 2 ^ (52 - length) * 2 ^ length = fractionCount * 2 ^ (length - 52)
  rw [count, ← Nat.pow_add, ← Nat.pow_add]
  congr 1
  omega

theorem mantissaExponent_integer {magnitude : Nat} (positive : magnitude ≠ 0) :
    mantissaExponent magnitude 1 = (magnitude.log2 : Int) - 52 := by
  have least : Nat.pow 2 magnitude.log2 ≤ magnitude := Nat.log2_self_le positive
  have one : Nat.log2 1 = 0 := by decide
  have fits : ¬ magnitude * Nat.pow 2 (52 - magnitude.log2) <
      Nat.pow 2 (magnitude.log2 - 52) * fractionCount := by
    rw [Nat.mul_comm _ fractionCount, ← pow_split, Nat.mul_comm magnitude, Nat.not_lt]
    exact Nat.mul_le_mul_left _ least
  simp only [mantissaExponent, one, Int.ofNat_eq_natCast, Int.natCast_zero, Int.sub_zero,
    scaleDown_integer, if_neg fits, minExponent]
  omega

theorem roundHalfEven_integer (magnitude : Nat) :
    roundHalfEven (magnitude * Nat.pow 2 (52 - magnitude.log2))
      (Nat.pow 2 (magnitude.log2 - 52)) = integerMantissa magnitude := by
  have up : 0 < Nat.pow 2 magnitude.log2 := Nat.two_pow_pos _
  have down : 0 < Nat.pow 2 (magnitude.log2 - 52) := Nat.two_pow_pos _
  rw [← roundHalfEven_scaled _ _ up, Nat.mul_assoc, pow_split, ← Nat.mul_assoc,
    Nat.mul_comm (Nat.pow 2 (magnitude.log2 - 52)), roundHalfEven_scaled _ _ down, integerMantissa]

/-- The mantissa has fifty-three bits, unless rounding carries past them. -/
theorem integerMantissa_bounds {magnitude : Nat} (positive : magnitude ≠ 0) :
    fractionCount ≤ integerMantissa magnitude ∧
      integerMantissa magnitude ≤ 2 * fractionCount := by
  have power : 0 < Nat.pow 2 magnitude.log2 := Nat.two_pow_pos _
  have least : Nat.pow 2 magnitude.log2 ≤ magnitude := Nat.log2_self_le positive
  have greatest : magnitude < 2 * Nat.pow 2 magnitude.log2 := by
    have bound := @Nat.lt_log2_self magnitude
    rw [Nat.pow_succ'] at bound
    exact bound
  have bounds := roundHalfEven_bounds (magnitude * fractionCount) (Nat.pow 2 magnitude.log2)
  have low : fractionCount ≤ magnitude * fractionCount / Nat.pow 2 magnitude.log2 := by
    rw [Nat.le_div_iff_mul_le power, Nat.mul_comm]
    exact Nat.mul_le_mul_right _ least
  have high : magnitude * fractionCount / Nat.pow 2 magnitude.log2 < 2 * fractionCount := by
    rw [Nat.div_lt_iff_lt_mul power, Nat.mul_right_comm]
    exact Nat.mul_lt_mul_of_pos_right greatest (by decide)
  unfold integerMantissa
  omega

/-- Zero, or the bits of a number that is not too small to have its full mantissa. -/
def IsRegular (bits : Nat) : Prop :=
  bits = 0 ∨ (fractionCount ≤ bits ∧ bits < 2047 * fractionCount)

theorem integerBits_pos {magnitude : Nat} (positive : magnitude ≠ 0) :
    0 < integerBits magnitude := by
  have bounds := integerMantissa_bounds positive
  have some : 0 < fractionCount := by decide
  rw [integerBits, if_neg positive]
  omega

theorem integerBits_regular {magnitude : Nat} (small : magnitude.log2 < 64) :
    IsRegular (integerBits magnitude) := by
  unfold IsRegular integerBits
  by_cases zero : magnitude = 0
  · exact Or.inl (if_pos zero)
  · have bounds := integerMantissa_bounds zero
    rw [if_neg zero]
    simp only [fractionCount] at bounds ⊢
    omega

theorem nearest_integer (negative : Bool) {magnitude : Nat} (small : magnitude.log2 < 64) :
    nearest negative magnitude 1 = pack negative 0 (integerBits magnitude) := by
  by_cases zero : magnitude = 0
  · rw [zero]
    rfl
  · have field : ((magnitude.log2 : Int) - 52 - minExponent).toNat = magnitude.log2 + 1022 := by
      unfold minExponent
      omega
    have bits := integerBits_regular small
    have finite : ¬ 2047 * fractionCount ≤ integerBits magnitude := by
      rcases bits with none | ⟨-, bound⟩
      · rw [none]
        decide
      · omega
    rw [integerBits, if_neg zero] at finite
    simp only [nearest, if_neg zero, mantissaExponent_integer zero, scaleDown_integer, field,
      roundHalfEven_integer, if_neg finite, integerBits]

/-- The bits do not fall when the magnitude grows. -/
theorem integerBits_mono {less more : Nat} (le : less ≤ more) :
    integerBits less ≤ integerBits more := by
  by_cases zero : less = 0
  · rw [zero]
    exact Nat.zero_le _
  have positive : more ≠ 0 := by omega
  have logs : less.log2 ≤ more.log2 := by
    rw [Nat.le_log2 positive]
    exact Nat.le_trans (Nat.log2_self_le zero) le
  rw [integerBits, integerBits, if_neg zero, if_neg positive]
  rcases Nat.lt_or_eq_of_le logs with lt | same
  · -- A carry past the mantissa ends where the next power of two starts.
    have first := integerMantissa_bounds zero
    have second := integerMantissa_bounds positive
    simp only [fractionCount] at first second ⊢
    omega
  · rw [integerMantissa, integerMantissa, same]
    have rounded := roundHalfEven_mono (Nat.mul_le_mul_right fractionCount le)
      (Nat.pow 2 more.log2)
    omega

/-- A magnitude of at most fifty-three bits is not rounded. -/
theorem integerMantissa_exact {magnitude : Nat} (short : magnitude.log2 ≤ 52) :
    integerMantissa magnitude = magnitude * Nat.pow 2 (52 - magnitude.log2) := by
  have none : magnitude.log2 - 52 = 0 := by omega
  have one : Nat.pow 2 0 = 1 := rfl
  have exact := roundHalfEven_exact (magnitude * Nat.pow 2 (52 - magnitude.log2)) Nat.zero_lt_one
  rw [← roundHalfEven_integer, none, one]
  rw [Nat.mul_one] at exact
  exact exact

/-- Up to two to the power of fifty-three different magnitudes have different bits. -/
theorem integerBits_strict {less more : Nat} (lt : less < more) (short : more ≤ 2 * fractionCount) :
    integerBits less < integerBits more := by
  have positive : more ≠ 0 := by omega
  have moreBounds := integerMantissa_bounds positive
  by_cases zero : less = 0
  · rw [zero]
    exact integerBits_pos positive
  have lessShort : less.log2 ≤ 52 := by
    have bound : less.log2 < 53 := (Nat.log2_lt zero).mpr (Nat.lt_of_lt_of_le lt short)
    omega
  have exact := integerMantissa_exact lessShort
  have logs : less.log2 ≤ more.log2 := by
    rw [Nat.le_log2 positive]
    exact Nat.le_trans (Nat.log2_self_le zero) (Nat.le_of_lt lt)
  have carried : integerMantissa less < 2 * fractionCount := by
    have bound : less < Nat.pow 2 (less.log2 + 1) := Nat.lt_log2_self
    rw [exact]
    calc less * Nat.pow 2 (52 - less.log2)
        < Nat.pow 2 (less.log2 + 1) * Nat.pow 2 (52 - less.log2) :=
          Nat.mul_lt_mul_of_pos_right bound (Nat.two_pow_pos _)
      _ = Nat.pow 2 (less.log2 + 1 + (52 - less.log2)) := (Nat.pow_add _ _ _).symm
      _ = 2 * fractionCount := by
          have sum : less.log2 + 1 + (52 - less.log2) = 53 := by omega
          rw [sum]
          rfl
  rw [integerBits, integerBits, if_neg zero, if_neg positive]
  rcases Nat.lt_or_eq_of_le logs with longer | same
  · simp only [fractionCount] at moreBounds carried ⊢
    omega
  · have other : integerMantissa more = _ := integerMantissa_exact (by omega)
    have grows : integerMantissa less < integerMantissa more := by
      rw [exact, other, same]
      exact Nat.mul_lt_mul_of_pos_right lt (Nat.two_pow_pos _)
    rw [same]
    omega

/-! ## The order of floating-point numbers -/

/-- The sign as floating-point numbers have it. -/
def signOf (negative : Bool) : Sign :=
  if negative then .negative else .positive

/-- A number that is zero or has its full mantissa, taken apart. -/
def takenApart (negative : Bool) (bits : Nat) : UnpackedFloat :=
  if bits = 0 then .zero (signOf negative)
  else .finite (signOf negative) (fractionCount + bits % fractionCount)
    ((bits / fractionCount : Nat) - 1075) (Nat.add_pos_left (by decide) _)

/-- The bits with their sign, by which floating-point numbers are ordered. -/
def signedBits (negative : Bool) (bits : Nat) : Int :=
  if negative then -(bits : Int) else bits

theorem unpack_ofBits {word : UInt64}
    (number : @UnpackedFloat.isNaNBits .binary64 word.toBitVec = false) :
    (Float.ofBits word).toModel.unpack = UnpackedFloat.unpack .binary64 word.toBitVec := by
  have same := @UnpackedFloat.pack_unpack .binary64 word.toBitVec (by decide)
  rw [number, if_neg Bool.false_ne_true] at same
  simp only [Float.ofBits, Float.Model.unpack, Float.Model.ofBits, Float.Model.pack, same]

section Fields

variable {negative : Bool} {bits : Nat} {word : BitVec 64}

theorem toNat_unpackMantissa :
    (@UnpackedFloat.unpackMantissa .binary64 word).toNat = word.toNat % fractionCount := by
  rw [UnpackedFloat.unpackMantissa_def, BitVec.extractLsb'_toNat]
  rfl

theorem toNat_unpackExponent :
    (@UnpackedFloat.unpackExponent .binary64 word).toNat =
      word.toNat / fractionCount % exponentCount := by
  rw [UnpackedFloat.unpackExponent_def, BitVec.extractLsb'_toNat, Nat.shiftRight_eq_div_pow]
  rfl

theorem toNat_unpackSign :
    (@UnpackedFloat.unpackSign .binary64 word).toNat = word.toNat / signWeight % 2 := by
  rw [UnpackedFloat.unpackSign_def, BitVec.extractLsb'_toNat, Nat.shiftRight_eq_div_pow]
  rfl

/-- The bits of a regular number with its sign. -/
def wordOf (negative : Bool) (bits : Nat) : BitVec 64 :=
  (UInt64.ofNat ((if negative then signWeight else 0) + 0 * fractionCount + bits)).toBitVec

theorem toNat_wordOf (regular : IsRegular bits) :
    (wordOf negative bits).toNat = (if negative then signWeight else 0) + bits := by
  have small : (if negative then signWeight else 0) + 0 * fractionCount + bits < 2 ^ 64 := by
    unfold IsRegular fractionCount at regular
    unfold fractionCount signWeight
    split <;> omega
  change (UInt64.ofNat _).toNat = _
  rw [UInt64.toNat_ofNat', Nat.mod_eq_of_lt small]
  omega

theorem fields_wordOf (regular : IsRegular bits) :
    (@UnpackedFloat.unpackMantissa .binary64 (wordOf negative bits)).toNat =
        bits % fractionCount ∧
      (@UnpackedFloat.unpackExponent .binary64 (wordOf negative bits)).toNat =
        bits / fractionCount ∧
      Sign.ofBitVec (@UnpackedFloat.unpackSign .binary64 (wordOf negative bits)) =
        signOf negative := by
  have value := @toNat_wordOf negative bits regular
  unfold IsRegular fractionCount at regular
  refine ⟨?_, ?_, ?_⟩
  · rw [toNat_unpackMantissa, value]
    unfold fractionCount signWeight
    split <;> omega
  · rw [toNat_unpackExponent, value]
    unfold fractionCount signWeight exponentCount
    split <;> omega
  · have sign := @toNat_unpackSign (wordOf negative bits)
    rw [value] at sign
    unfold signWeight at sign
    cases negative with
    | false =>
        have zero : @UnpackedFloat.unpackSign .binary64 (wordOf false bits) = 0#1 := by
          apply BitVec.eq_of_toNat_eq
          rw [sign]
          simp only [Bool.false_eq_true, if_false, BitVec.toNat_ofNat]
          omega
        rw [zero]
        rfl
    | true =>
        have one : @UnpackedFloat.unpackSign .binary64 (wordOf true bits) = 1#1 := by
          apply BitVec.eq_of_toNat_eq
          rw [sign]
          simp only [if_true, BitVec.toNat_ofNat]
          omega
        rw [one]
        rfl

theorem unpack_pack (regular : IsRegular bits) :
    (pack negative 0 bits).toModel.unpack = takenApart negative bits := by
  rcases @fields_wordOf negative bits regular with ⟨mantissa, exponent, sign⟩
  have finite : @UnpackedFloat.unpackExponent .binary64 (wordOf negative bits) ≠ -1#_ := by
    intro largest
    rw [largest] at exponent
    change 2047 = bits / fractionCount at exponent
    unfold IsRegular fractionCount at regular
    unfold fractionCount at exponent
    omega
  have number : @UnpackedFloat.isNaNBits .binary64 (wordOf negative bits) = false := by
    unfold UnpackedFloat.isNaNBits
    exact decide_eq_false fun both => finite both.1
  rw [pack, unpack_ofBits number]
  change UnpackedFloat.unpack .binary64 (wordOf negative bits) = _
  simp only [UnpackedFloat.unpack, if_neg finite, sign, takenApart]
  by_cases zero : bits = 0
  · have least : @UnpackedFloat.unpackExponent .binary64 (wordOf negative bits) = 0#_ := by
      apply BitVec.eq_of_toNat_eq
      rw [exponent, zero]
      rfl
    have empty : @UnpackedFloat.unpackMantissa .binary64 (wordOf negative bits) = 0#_ := by
      apply BitVec.eq_of_toNat_eq
      rw [mantissa, zero]
      rfl
    rw [if_pos least, dif_pos empty, if_pos zero]
  · have some : @UnpackedFloat.unpackExponent .binary64 (wordOf negative bits) ≠ 0#_ := by
      intro least
      rw [least] at exponent
      change 0 = bits / fractionCount at exponent
      unfold IsRegular fractionCount at regular
      unfold fractionCount at exponent
      omega
    have whole : (1#1 ++ @UnpackedFloat.unpackMantissa .binary64 (wordOf negative bits)).toNat =
        fractionCount + bits % fractionCount := by
      have bound := (@UnpackedFloat.unpackMantissa .binary64 (wordOf negative bits)).isLt
      have joined := Nat.two_pow_add_eq_or_of_lt bound 1
      rw [BitVec.toNat_append, Nat.shiftLeft_eq, Nat.mul_comm, ← mantissa]
      exact joined.symm
    rw [if_neg some, if_neg zero]
    simp only [whole, exponent]
    rfl

end Fields

/-- Exponent before fraction, the order is that of the bits. -/
theorem compare_fields (first second : Nat) :
    (compare ((first / fractionCount : Nat) - 1075 : Int)
        ((second / fractionCount : Nat) - 1075 : Int)).then
      (compare (fractionCount + first % fractionCount) (fractionCount + second % fractionCount)) =
    compare (first : Int) second := by
  unfold fractionCount
  rcases Nat.lt_trichotomy (first / 4503599627370496) (second / 4503599627370496) with
    lt | same | gt
  · have exponents : compare ((first / 4503599627370496 : Nat) - 1075 : Int)
        ((second / 4503599627370496 : Nat) - 1075 : Int) = .lt := compare_lt_iff_lt.mpr (by omega)
    have whole : compare (first : Int) second = .lt := compare_lt_iff_lt.mpr (by omega)
    rw [exponents, whole]
    rfl
  · rw [same, compare_eq_iff_eq.mpr rfl]
    change compare _ _ = _
    rcases Nat.lt_trichotomy first second with lt | rfl | gt
    · rw [compare_lt_iff_lt.mpr (by omega), compare_lt_iff_lt.mpr (by omega)]
    · rw [compare_eq_iff_eq.mpr rfl, compare_eq_iff_eq.mpr rfl]
    · rw [compare_gt_iff_gt.mpr (by omega), compare_gt_iff_gt.mpr (by omega)]
  · have exponents : compare ((first / 4503599627370496 : Nat) - 1075 : Int)
        ((second / 4503599627370496 : Nat) - 1075 : Int) = .gt := compare_gt_iff_gt.mpr (by omega)
    have whole : compare (first : Int) second = .gt := compare_gt_iff_gt.mpr (by omega)
    rw [exponents, whole]
    rfl

theorem swap_compare (first second : Int) :
    (compare first second).swap = compare (-first) (-second) := by
  rcases Int.lt_trichotomy first second with lt | rfl | gt
  · rw [compare_lt_iff_lt.mpr lt, compare_gt_iff_gt.mpr (Int.neg_lt_neg lt)]
    rfl
  · rw [compare_eq_iff_eq.mpr rfl, compare_eq_iff_eq.mpr rfl]
    rfl
  · rw [compare_gt_iff_gt.mpr gt, compare_lt_iff_lt.mpr (Int.neg_lt_neg gt)]
    rfl

/-- Numbers that are taken apart are in the order of their bits with their signs. -/
theorem compare_takenApart (negative other : Bool) (first second : Nat) :
    (takenApart negative first).compare (takenApart other second) =
      some (compare (signedBits negative first) (signedBits other second)) := by
  have less : ∀ {left right : Int}, left < right → some .lt = some (compare left right) :=
    fun lt => congrArg some (compare_lt_iff_lt.mpr lt).symm
  have more : ∀ {left right : Int}, right < left → some .gt = some (compare left right) :=
    fun gt => congrArg some (compare_gt_iff_gt.mpr gt).symm
  have fields := compare_fields first second
  unfold takenApart signedBits
  by_cases noFirst : first = 0
  · by_cases noSecond : second = 0
    · cases negative <;> cases other <;> simp only [noFirst, noSecond, if_true] <;> rfl
    · simp only [noFirst, if_true, if_neg noSecond]
      cases negative <;> cases other
      · exact less (by simp only [Bool.false_eq_true, if_false]; omega)
      · exact more (by simp only [Bool.false_eq_true, if_false, if_true]; omega)
      · exact less (by simp only [Bool.false_eq_true, if_false, if_true]; omega)
      · exact more (by simp only [if_true]; omega)
  · simp only [if_neg noFirst]
    by_cases noSecond : second = 0
    · simp only [noSecond, if_true]
      cases negative <;> cases other
      · exact more (by simp only [Bool.false_eq_true, if_false]; omega)
      · exact more (by simp only [Bool.false_eq_true, if_false, if_true]; omega)
      · exact less (by simp only [Bool.false_eq_true, if_false, if_true]; omega)
      · exact less (by simp only [if_true]; omega)
    · simp only [if_neg noSecond]
      cases negative <;> cases other
      · exact congrArg some fields
      · exact more (by simp only [Bool.false_eq_true, if_false, if_true]; omega)
      · exact less (by simp only [Bool.false_eq_true, if_false, if_true]; omega)
      · exact congrArg some ((congrArg Ordering.swap fields).trans (swap_compare _ _))

/-! ## The order of integers -/

/-- What an integer is ordered by once it is a floating-point number. -/
def roundingKey (n : Int64) : Int :=
  signedBits (n.toInt < 0) (integerBits n.toInt.natAbs)

theorem log2_natAbs (n : Int64) : n.toInt.natAbs.log2 < 64 := by
  have least := Int64.le_toInt n
  have greatest := Int64.toInt_lt n
  by_cases zero : n.toInt.natAbs = 0
  · rw [zero]
    decide
  · rw [Nat.log2_lt zero]
    omega

theorem unpack_ofInteger (n : Int64) :
    (ofInteger n).toModel.unpack = takenApart (n.toInt < 0) (integerBits n.toInt.natAbs) := by
  rw [ofInteger, nearest_integer _ (log2_natAbs n)]
  exact unpack_pack (integerBits_regular (log2_natAbs n))

theorem compare_ofInteger (a b : Int64) :
    (ofInteger a).toModel.unpack.compare (ofInteger b).toModel.unpack =
      some (compare (roundingKey a) (roundingKey b)) := by
  rw [unpack_ofInteger, unpack_ofInteger]
  exact compare_takenApart _ _ _ _

theorem float_lt_iff (x y : Float) :
    x < y ↔ x.toModel.unpack.compare y.toModel.unpack = some .lt := by
  change decide (x.toModel < y.toModel) = true ↔ _
  rw [decide_eq_true_iff]
  exact beq_iff_eq

theorem float_beq_iff (x y : Float) :
    (x == y) = true ↔ x.toModel.unpack.compare y.toModel.unpack = some .eq := by
  change (x.toModel.unpack.compare y.toModel.unpack == some .eq) = true ↔ _
  exact beq_iff_eq

/-- Integers as floating-point numbers are in the order of their keys. -/
theorem floatOrder?_ofInteger (a b : Int64) :
    Data.floatOrder? (ofInteger a) (ofInteger b) =
      some (compare (roundingKey a) (roundingKey b)) := by
  have before := float_lt_iff (ofInteger a) (ofInteger b)
  have same := float_beq_iff (ofInteger a) (ofInteger b)
  have behind := float_lt_iff (ofInteger b) (ofInteger a)
  rw [compare_ofInteger, Option.some_inj] at before same behind
  rw [compare_lt_iff_lt] at before behind
  rw [compare_eq_iff_eq] at same
  unfold Data.floatOrder?
  rcases Int.lt_trichotomy (roundingKey a) (roundingKey b) with lt | eq | gt
  · rw [if_pos (before.mpr lt), compare_lt_iff_lt.mpr lt]
  · rw [if_neg (mt before.mp (by omega)), if_pos (same.mpr eq), compare_eq_iff_eq.mpr eq]
  · rw [if_neg (mt before.mp (by omega)), if_neg (mt same.mp (by omega)),
      if_pos (behind.mpr gt), compare_gt_iff_gt.mpr gt]

/-- The same bits with the same sign are the same number, since zero has one sign only. -/
theorem ofInteger_eq_iff (a b : Int64) : ofInteger a = ofInteger b ↔ roundingKey a = roundingKey b := by
  constructor
  · intro same
    have order := compare_ofInteger a b
    rw [same, compare_ofInteger] at order
    have equal := Option.some_inj.mp order
    rw [compare_eq_iff_eq.mpr rfl] at equal
    exact compare_eq_iff_eq.mp equal.symm
  · intro same
    have zeros : ∀ n : Int64, n.toInt < 0 → 0 < integerBits n.toInt.natAbs :=
      fun n negative => integerBits_pos (by omega)
    have both : decide (a.toInt < 0) = decide (b.toInt < 0) ∧
        integerBits a.toInt.natAbs = integerBits b.toInt.natAbs := by
      have first := zeros a
      have second := zeros b
      unfold roundingKey signedBits at same
      by_cases negative : a.toInt < 0 <;> by_cases other : b.toInt < 0 <;>
        simp only [negative, other, decide_true, decide_false, if_true, Bool.false_eq_true,
          if_false, true_and] at same ⊢ <;> omega
    rw [ofInteger, ofInteger, nearest_integer _ (log2_natAbs a), nearest_integer _ (log2_natAbs b),
      both.1, both.2]

/-- No integer becomes less than a smaller one. -/
theorem roundingKey_mono {a b : Int64} (le : a.toInt ≤ b.toInt) : roundingKey a ≤ roundingKey b := by
  unfold roundingKey signedBits
  by_cases first : a.toInt < 0 <;> by_cases second : b.toInt < 0 <;>
    simp only [first, second, decide_true, decide_false, if_true, Bool.false_eq_true, if_false]
  · have bits := integerBits_mono (show b.toInt.natAbs ≤ a.toInt.natAbs by omega)
    omega
  · omega
  · omega
  · have bits := integerBits_mono (show a.toInt.natAbs ≤ b.toInt.natAbs by omega)
    omega

/-- Integers of at most fifty-three bits stay apart. -/
theorem roundingKey_strict {a b : Int64} (lt : a.toInt < b.toInt)
    (first : a.toInt.natAbs ≤ 2 ^ 53) (second : b.toInt.natAbs ≤ 2 ^ 53) :
    roundingKey a < roundingKey b := by
  have limit : 2 ^ 53 = 2 * fractionCount := rfl
  unfold roundingKey signedBits
  by_cases negative : a.toInt < 0 <;> by_cases other : b.toInt < 0 <;>
    simp only [negative, other, decide_true, decide_false, if_true, Bool.false_eq_true, if_false]
  · have bits := integerBits_strict (show b.toInt.natAbs < a.toInt.natAbs by omega) (by omega)
    omega
  · have some := integerBits_pos (show a.toInt.natAbs ≠ 0 by omega)
    omega
  · omega
  · have bits := integerBits_strict (show a.toInt.natAbs < b.toInt.natAbs by omega) (by omega)
    omega

end Number
end Scripting
