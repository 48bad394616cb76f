import AccessPolicy.Number.Binary64
import AccessPolicy.Proofs.Number.Decimal

/-!
Whole numbers in double precision.

A whole number below the fifty-third power of two has no more bits than a significand, so the
nearest number to it is itself.
-/

namespace AccessPolicy.Number.Binary64

/-- Dividing by one leaves nothing to round. -/
theorem divideEven_one (dividend : Nat) : divideEven dividend 1 = dividend := by
  simp [divideEven, Nat.mod_one]

/-- Zero divided by anything is zero. -/
theorem divideEven_zero {divisor : Nat} (positive : 0 < divisor) : divideEven 0 divisor = 0 := by
  simp [divideEven, positive]

/-- A whole number of no more than fifty-three bits is moved up until it has all of them. -/
theorem fittingExponent_whole {number : Nat} (filled : number ≠ 0) (fits : number < 2 ^ 53) :
    fittingExponent number 1 = -((52 - number.log2 : Nat) : Int) := by
  have bits : number.log2 < 53 := (Nat.log2_lt filled).mpr fits
  have guess : max leastExponent ((number.log2 : Int) - Nat.log2 1 - 53) =
      -((53 - number.log2 : Nat) : Int) := by
    have one : Nat.log2 1 = 0 := rfl
    simp only [leastExponent, one]
    omega
  have long : 2 ^ 53 ≤ number * 2 ^ (53 - number.log2) :=
    calc 2 ^ 53 = 2 ^ number.log2 * 2 ^ (53 - number.log2) := by
          rw [← Nat.pow_add, Nat.add_sub_cancel' bits.le]
      _ ≤ number * 2 ^ (53 - number.log2) := Nat.mul_le_mul_right _ (Nat.log2_self_le filled)
  simp only [fittingExponent, guess, inUnits, neg_neg, Int.toNat_natCast, Nat.pow_eq,
    Int.toNat_neg_natCast, Nat.pow_zero, Nat.mul_one, Nat.div_one, if_pos long]
  omega

/-- A significand that rounding left short enough is kept. -/
theorem ofRounded_of_lt {negative : Bool} {significand : Nat} {exponent : Int}
    (fits : significand < 2 ^ 53) (inRange : exponent ≤ greatestExponent) :
    ofRounded negative significand exponent = .finite negative significand exponent := by
  rw [ofRounded, Nat.pow_eq, if_neg fits.ne, if_neg inRange.not_gt]

/-- A whole number of no more than fifty-three bits is its own nearest number. -/
theorem ofQuotient_whole {number : Nat} (negative : Bool) (filled : number ≠ 0)
    (fits : number < 2 ^ 53) :
    ofQuotient negative number 1 =
      .finite negative (number * 2 ^ (52 - number.log2)) (-((52 - number.log2 : Nat) : Int)) := by
  have bits : number.log2 < 53 := (Nat.log2_lt filled).mpr fits
  have short : number * 2 ^ (52 - number.log2) < 2 ^ 53 :=
    calc number * 2 ^ (52 - number.log2)
        < 2 ^ (number.log2 + 1) * 2 ^ (52 - number.log2) :=
          Nat.mul_lt_mul_of_pos_right Nat.lt_log2_self (Nat.two_pow_pos _)
      _ = 2 ^ 53 := by rw [← Nat.pow_add]; congr 1; omega
  have inRange : -((52 - number.log2 : Nat) : Int) ≤ greatestExponent := by
    simp only [greatestExponent]
    omega
  simp only [ofQuotient, if_neg filled, fittingExponent_whole filled fits, inUnits, neg_neg,
    Int.toNat_natCast, Int.toNat_neg_natCast, Nat.pow_eq, Nat.pow_zero, Nat.mul_one,
    divideEven_one]
  exact ofRounded_of_lt short inRange

/-- The nearest number to a whole number of no more than fifty-three bits has its value. -/
theorem ofDecimal_whole {number : Nat} (negative : Bool) (fits : number < 2 ^ 53) :
    ∃ shift : Nat,
      ofDecimal ⟨negative, number, 0⟩ = .finite negative (number * 2 ^ shift) (-shift) := by
  by_cases zero : number = 0
  · refine ⟨1074, ?_⟩
    rw [zero, Nat.zero_mul]
    rfl
  · refine ⟨52 - number.log2, ?_⟩
    have magnitude : Decimal.magnitude ⟨negative, number, 0⟩ = Nat.log 10 number := by
      rw [Decimal.magnitude_eq, add_zero]
    have short : Nat.log 10 number < 16 := Nat.log_lt_of_lt_pow zero (fits.trans (by decide))
    have least : ¬ (Nat.log 10 number : Int) < -400 := by omega
    have greatest : ¬ 400 < (Nat.log 10 number : Int) := by omega
    simp [ofDecimal, Decimal.isZero, zero, magnitude, least, greatest,
      ofQuotient_whole negative zero fits]

end AccessPolicy.Number.Binary64
