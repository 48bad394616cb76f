import AccessPolicy.Number.Decimal
import AccessPolicy.Proofs.Number.Numeral
import Mathlib.Algebra.Order.Field.Power
import Mathlib.Data.Rat.Cast.Order
import Mathlib.Order.Compare

/-!
Decimal numbers as rational numbers.

The main statement is that comparing two numbers by sign, magnitude and scaled coefficients puts
them in the order of their values, however far their exponents lie apart.
-/

namespace AccessPolicy.Number.Decimal

/-- The size of a number, its sign left aside. -/
def size (number : Decimal) : ℚ :=
  -- The exponent may be negative.
  number.coefficient * 10 ^ number.exponent

/-- The rational number that a decimal number is. -/
def value (number : Decimal) : ℚ :=
  -- The two zeros are one number.
  if number.negative then -number.size else number.size

variable {a b number : Decimal}

/-- A number is zero exactly where its coefficient is. -/
theorem isZero_iff : number.isZero = true ↔ number.coefficient = 0 := beq_iff_eq

/-- The size of a number that is not zero is positive. -/
theorem size_pos (filled : number.coefficient ≠ 0) : 0 < number.size := by
  have positive : (0 : ℚ) < number.coefficient := by exact_mod_cast Nat.pos_of_ne_zero filled
  exact mul_pos positive (zpow_pos (by norm_num) _)

/-- The magnitude is the exponent of the first digit. -/
theorem magnitude_eq (number : Decimal) :
    number.magnitude = Nat.log 10 number.coefficient + number.exponent := by
  rw [magnitude, length_digits]
  push_cast
  ring

/-- The size of a number lies between the powers of ten of its magnitude and of the next one. -/
theorem size_bounds (filled : number.coefficient ≠ 0) :
    10 ^ number.magnitude ≤ number.size ∧ number.size < 10 ^ (number.magnitude + 1) := by
  have unit : (0 : ℚ) < 10 ^ number.exponent := zpow_pos (by norm_num) _
  have ten : (10 : ℚ) ≠ 0 := by norm_num
  have lower : (10 : ℚ) ^ Nat.log 10 number.coefficient ≤ number.coefficient := by
    exact_mod_cast Nat.pow_log_le_self 10 filled
  have upper : (number.coefficient : ℚ) < 10 ^ (Nat.log 10 number.coefficient + 1) := by
    exact_mod_cast Nat.lt_pow_succ_log_self (by decide) number.coefficient
  rw [magnitude_eq]
  constructor
  · rw [zpow_add₀ ten, zpow_natCast]
    exact mul_le_mul_of_nonneg_right lower unit.le
  · rw [add_right_comm, zpow_add₀ ten, ← Nat.cast_succ, zpow_natCast]
    exact mul_lt_mul_of_pos_right upper unit

/-- A number of smaller magnitude has a smaller size. -/
theorem size_lt_of_magnitude_lt (filled : a.coefficient ≠ 0) (filledToo : b.coefficient ≠ 0)
    (smaller : a.magnitude < b.magnitude) : a.size < b.size :=
  calc a.size < 10 ^ (a.magnitude + 1) := (size_bounds filled).2
    _ ≤ 10 ^ b.magnitude := zpow_le_zpow_right₀ (by norm_num) smaller
    _ ≤ b.size := (size_bounds filledToo).1

/-- A size can be counted in units of any power of ten that is not above its exponent. -/
theorem size_eq_scaled {place : Int} (below : place ≤ number.exponent) :
    number.size =
      (number.coefficient * Nat.pow 10 (number.exponent - place).toNat : Nat) * 10 ^ place := by
  have split : number.exponent = ((number.exponent - place).toNat : Int) + place := by omega
  conv_lhs => rw [size, split, zpow_add₀ (by norm_num), zpow_natCast]
  push_cast [Nat.pow_eq]
  ring

/-- Counts in one positive unit are compared as the amounts that they make up. -/
theorem compare_compares_scaled {unit : ℚ} (positive : 0 < unit) (m n : Nat) :
    (compare m n).Compares (m * unit) (n * unit) := by
  cases counts : compare m n with
  | lt =>
    have smaller : (m : ℚ) < n := by exact_mod_cast compare_lt_iff_lt.mp counts
    exact mul_lt_mul_of_pos_right smaller positive
  | gt =>
    have greater : (n : ℚ) < m := by exact_mod_cast compare_gt_iff_gt.mp counts
    exact mul_lt_mul_of_pos_right greater positive
  | eq => rw [compare_eq_iff_eq.mp counts, Ordering.compares_eq]

/-- Sizes that are not zero are compared as rational numbers. -/
theorem compareSize_compares (filled : a.coefficient ≠ 0) (filledToo : b.coefficient ≠ 0) :
    (compareSize a b).Compares a.size b.size := by
  unfold compareSize
  split
  · -- Of one magnitude, the two are counted in the unit of the lower exponent.
    rw [size_eq_scaled (min_le_left a.exponent b.exponent),
      size_eq_scaled (min_le_right a.exponent b.exponent)]
    exact compare_compares_scaled (zpow_pos (by norm_num) _) _ _
  · cases magnitudes : compare a.magnitude b.magnitude with
    | lt => exact size_lt_of_magnitude_lt filled filledToo (compare_lt_iff_lt.mp magnitudes)
    | gt => exact size_lt_of_magnitude_lt filledToo filled (compare_gt_iff_gt.mp magnitudes)
    | eq => contradiction

/-- The signs by which a number can lie on one side of zero or be zero. -/
inductive Side (number : Decimal) : Prop where
  | zero (coefficient : number.coefficient = 0) (sign : number.sign = 0)
      (value : number.value = 0)
  | negative (coefficient : number.coefficient ≠ 0) (below : number.negative = true)
      (sign : number.sign = -1) (value : number.value = -number.size)
  | positive (coefficient : number.coefficient ≠ 0) (above : number.negative = false)
      (sign : number.sign = 1) (value : number.value = number.size)

/-- Every number lies on one side of zero or is zero. -/
theorem side (number : Decimal) : number.Side := by
  by_cases zero : number.coefficient = 0
  · have nothing : number.size = 0 := by simp [size, zero]
    exact .zero zero (by simp [sign, isZero, zero]) (by simp [value, nothing])
  · cases below : number.negative with
    | true => exact .negative zero below (by simp [sign, isZero, zero, below]) (by simp [value, below])
    | false => exact .positive zero below (by simp [sign, isZero, zero, below]) (by simp [value, below])

/-- A number of smaller sign is the smaller number. -/
theorem value_lt_of_sign_lt (smaller : a.sign < b.sign) : a.value < b.value := by
  cases a.side with
  | zero _ signA valueA =>
    cases b.side with
    | positive filledB _ _ valueB =>
      rw [valueA, valueB]
      exact size_pos filledB
    | zero _ signB _ => omega
    | negative _ _ signB _ => omega
  | negative filledA _ signA valueA =>
    have below : -a.size < 0 := neg_neg_of_pos (size_pos filledA)
    cases b.side with
    | zero _ _ valueB => rwa [valueA, valueB]
    | positive filledB _ _ valueB =>
      rw [valueA, valueB]
      exact below.trans (size_pos filledB)
    | negative _ _ signB _ => omega
  | positive _ _ signA _ => cases b.side <;> omega

/-- Opposite numbers are in the opposite order. -/
theorem compares_neg {order : Ordering} {x y : ℚ} (compared : order.Compares y x) :
    order.Compares (-x) (-y) := by
  cases order with
  | lt => exact neg_lt_neg compared
  | eq => exact congrArg _ (Eq.symm compared)
  | gt => exact neg_lt_neg compared

/-- Numbers are compared as the rational numbers that they are. -/
theorem compareValue_compares (a b : Decimal) : (compareValue a b).Compares a.value b.value := by
  unfold compareValue
  split
  · rename_i same
    cases a.side with
    | zero noneA signA valueA =>
      cases b.side with
      | zero _ _ valueB => rw [if_pos (isZero_iff.mpr noneA), valueA, valueB, Ordering.compares_eq]
      | negative _ _ signB _ => omega
      | positive _ _ signB _ => omega
    | negative filledA below signA valueA =>
      cases b.side with
      | negative filledB _ _ valueB =>
        -- Of two negative numbers, the one of greater size is the smaller one.
        rw [if_neg (mt isZero_iff.mp filledA), if_pos below, valueA, valueB]
        exact compares_neg (compareSize_compares filledB filledA)
      | zero _ signB _ => omega
      | positive _ _ signB _ => omega
    | positive filledA above signA valueA =>
      cases b.side with
      | positive filledB _ _ valueB =>
        rw [if_neg (mt isZero_iff.mp filledA), if_neg (by simp [above]), valueA, valueB]
        exact compareSize_compares filledA filledB
      | zero _ signB _ => omega
      | negative _ _ signB _ => omega
  · rename_i different
    cases signs : compare a.sign b.sign with
    | lt => exact value_lt_of_sign_lt (compare_lt_iff_lt.mp signs)
    | gt => exact value_lt_of_sign_lt (compare_gt_iff_gt.mp signs)
    | eq => exact absurd (compare_eq_iff_eq.mp signs) different

end AccessPolicy.Number.Decimal
