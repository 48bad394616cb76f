import AccessPolicy.Number.Numeral
import Mathlib.Data.Nat.Digits.Lemmas

/-! Decimal digits of natural numbers, which are those of the positional system to the base ten. -/

namespace AccessPolicy.Number

/-- With enough fuel, the digits of the positional system are put in front, the highest first. -/
theorem digitsBefore_eq {fuel number : Nat} (bounded : number < 2 ^ fuel) (later : List Nat) :
    digitsBefore fuel number later =
      (if number = 0 then [0] else (Nat.digits 10 number).reverse) ++ later := by
  induction fuel generalizing number later with
  | zero =>
    obtain rfl : number = 0 := by simpa using bounded
    rfl
  | succ fuel ih =>
    rw [digitsBefore]
    by_cases single : number < 10
    · rw [if_pos single]
      by_cases zero : number = 0
      · simp [zero]
      · simp [zero, Nat.digits_of_lt 10 number zero single]
    · -- A tenth has at least one bit less.
      have smaller : number / 10 < 2 ^ fuel := by
        rw [Nat.pow_succ] at bounded
        omega
      have rest : number / 10 ≠ 0 := by omega
      have positive : number ≠ 0 := by omega
      rw [if_neg single, ih smaller, if_neg rest, if_neg positive,
        Nat.digits_def' (by decide) (Nat.pos_of_ne_zero positive)]
      simp

/-- The digits of a number are those of the positional system, and zero has one. -/
theorem digits_eq (number : Nat) :
    digits number = if number = 0 then [0] else (Nat.digits 10 number).reverse := by
  rw [digits, digitsBefore_eq Nat.lt_log2_self, List.append_nil]

/-- A number has one digit more than its logarithm. -/
theorem length_digits (number : Nat) : (digits number).length = Nat.log 10 number + 1 := by
  rw [digits_eq]
  by_cases zero : number = 0
  · simp [zero]
  · rw [if_neg zero, List.length_reverse, Nat.length_digits 10 number (by decide) zero]

/-- Every number has a digit. -/
theorem digits_ne_nil (number : Nat) : digits number ≠ [] := by
  refine List.ne_nil_of_length_pos ?_
  rw [length_digits]
  exact Nat.succ_pos _

/-- Digits are less than ten. -/
theorem lt_ten_of_mem_digits {number digit : Nat} (member : digit ∈ digits number) :
    digit < 10 := by
  rw [digits_eq] at member
  split at member
  · simp_all
  · exact Nat.digits_lt_base (by decide) (List.mem_reverse.mp member)

/-- What a list of digits stands for is the value of the positional system. -/
theorem ofDigits_eq (ds : List Nat) : ofDigits ds = Nat.ofDigits 10 ds.reverse := by
  rw [ofDigits, Nat.ofDigits_eq_foldr, List.foldr_reverse]
  simp [add_comm]

/-- The digits of a number stand for it. -/
theorem ofDigits_digits (number : Nat) : ofDigits (digits number) = number := by
  rw [ofDigits_eq, digits_eq]
  by_cases zero : number = 0
  · simp [zero]
  · rw [if_neg zero, List.reverse_reverse, Nat.ofDigits_digits]

/-- The digits of a number, filled up with zeros to a width. -/
def filledDigits (width number : Nat) : List Nat :=
  -- The zeros stand in front.
  List.replicate (width - (digits number).length) 0 ++ digits number

/-- A numeral that is filled up shows the digits of the number behind zeros. -/
theorem padded_eq (width number : Nat) :
    padded width number = (filledDigits width number).map digitChar := by
  simp only [padded, natNumeral, filledDigits, List.map_append, List.map_replicate,
    List.length_map]
  rfl

/-- A number below the power of ten of a width has no more digits than that. -/
theorem length_filledDigits {width number : Nat} (positive : 0 < width)
    (fits : number < 10 ^ width) : (filledDigits width number).length = width := by
  have short : Nat.log 10 number < width := by
    by_cases zero : number = 0
    · simpa [zero] using positive
    · exact Nat.log_lt_of_lt_pow zero fits
  rw [filledDigits, List.length_append, List.length_replicate, length_digits]
  omega

/-- Every number that is filled up has a digit. -/
theorem filledDigits_ne_nil (width number : Nat) : filledDigits width number ≠ [] :=
  List.append_ne_nil_of_right_ne_nil _ (digits_ne_nil number)

/-- Filled up digits are less than ten. -/
theorem lt_ten_of_mem_filledDigits {width number digit : Nat}
    (member : digit ∈ filledDigits width number) : digit < 10 := by
  rcases List.mem_append.mp member with zero | own
  · rw [List.eq_of_mem_replicate zero]
    decide
  · exact lt_ten_of_mem_digits own

/-- Zeros in front do not change what digits stand for. -/
theorem ofDigits_filledDigits (width number : Nat) :
    ofDigits (filledDigits width number) = number := by
  rw [filledDigits, ofDigits_eq, List.reverse_append, List.reverse_replicate,
    Nat.ofDigits_append_replicate_zero, ← ofDigits_eq, ofDigits_digits]

end AccessPolicy.Number
