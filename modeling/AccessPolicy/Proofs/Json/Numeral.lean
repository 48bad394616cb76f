import AccessPolicy.Proofs.Json.Escape
import AccessPolicy.Proofs.Number.Numeral

/-! Whole numbers: a numeral is read back where the text behind it does not continue it. -/

namespace AccessPolicy.Number

/-- The first digit of a number is zero for zero alone, which has no other digit. -/
theorem digits_eq_zero_cons_iff {number : Nat} {ds : List Nat} :
    digits number = 0 :: ds ↔ number = 0 ∧ ds = [] := by
  rw [digits_eq]
  by_cases zero : number = 0
  · simp [zero, eq_comm]
  · have last := Nat.getLast_digit_ne_zero 10 zero
    refine iff_of_false (fun split => last ?_) (by simp [zero])
    rw [if_neg zero, List.reverse_eq_cons_iff] at split
    simp [split]

end AccessPolicy.Number

namespace AccessPolicy.Json

/-- A value ends where nothing is behind it, or a mark that leads on or closes what is around it. -/
def Closes (rest : List Char) : Prop :=
  -- None of these marks goes on with a number.
  ∀ c ∈ rest.head?, c = ',' ∨ c = ']' ∨ c = '\x7d'

/-- Digits are taken as far as they go. -/
theorem takeDigits_append {ds : List Nat} (small : ∀ digit ∈ ds, digit < 10) {rest : List Char}
    (closes : Closes rest) :
    takeDigits (ds.map Number.digitChar ++ rest) = (ds, rest) := by
  have read : ∀ digit < 10, Text.asciiDigit? (Number.digitChar digit) = some digit := by decide
  induction ds with
  | nil =>
    cases rest with
    | nil => rfl
    | cons c later =>
      have other : Text.asciiDigit? c = none := by
        rcases closes c rfl with rfl | rfl | rfl <;> rfl
      simp [takeDigits, other]
  | cons digit ds ih =>
    obtain ⟨here, behind⟩ := List.forall_mem_cons.mp small
    rw [List.map_cons, List.cons_append, takeDigits, read digit here, ih behind]

section Numeral

variable {rest : List Char}

/-- Nothing that closes a value is a fraction. -/
theorem readFraction_of_closes (closes : Closes rest) : readFraction rest = ([], rest) := by
  cases rest with
  | nil => rfl
  | cons c later => rcases closes c rfl with rfl | rfl | rfl <;> rfl

/-- Nothing that closes a value is a power of ten. -/
theorem readPower_of_closes (closes : Closes rest) : readPower rest = (none, rest) := by
  cases rest with
  | nil => rfl
  | cons c later => rcases closes c rfl with rfl | rfl | rfl <;> rfl

/-- The digits of a whole number are read back. -/
theorem readWhole_natNumeral (number : Nat) (closes : Closes rest) :
    readWhole (Number.natNumeral number ++ rest) = some (Number.digits number, rest) := by
  have small : ∀ digit ∈ Number.digits number, digit < 10 :=
    fun _ => Number.lt_ten_of_mem_digits
  have taken := takeDigits_append small closes
  rw [readWhole, Number.natNumeral, taken]
  rcases split : Number.digits number with _ | ⟨digit, ds⟩
  · exact absurd split (Number.digits_ne_nil number)
  · cases digit with
    | zero =>
      obtain ⟨-, rfl⟩ := Number.digits_eq_zero_cons_iff.mp split
      rfl
    | succ digit => rfl

/-- The numeral of a natural number starts with a digit. -/
theorem exists_natNumeral_eq_cons (number : Nat) :
    ∃ c later, Number.natNumeral number = c :: later ∧ '0' ≤ c ∧ c ≤ '9' := by
  rcases split : Number.digits number with _ | ⟨digit, ds⟩
  · exact absurd split (Number.digits_ne_nil number)
  · have small : digit < 10 := Number.lt_ten_of_mem_digits (split ▸ List.mem_cons_self)
    have shown : ∀ digit < 10, '0' ≤ Number.digitChar digit ∧ Number.digitChar digit ≤ '9' := by
      decide
    refine ⟨_, ds.map Number.digitChar, ?_, shown digit small⟩
    rw [Number.natNumeral, split, List.map_cons]

/-- A digit is no other character. -/
theorem ne_of_digit {c other : Char} (digit : '0' ≤ c ∧ c ≤ '9')
    (noDigit : ¬ ('0' ≤ other ∧ other ≤ '9')) : c ≠ other := by
  rintro rfl
  exact noDigit digit

/-- The numeral of a whole number starts with a digit or with a sign. -/
theorem exists_intNumeral_eq_cons (number : Int) :
    ∃ c later, Number.intNumeral number = c :: later ∧ (c = '-' ∨ '0' ≤ c ∧ c ≤ '9') := by
  cases number with
  | ofNat number =>
    obtain ⟨c, later, starts, digit⟩ := exists_natNumeral_eq_cons number
    exact ⟨c, later, starts, Or.inr digit⟩
  | negSucc less => exact ⟨'-', _, rfl, Or.inl rfl⟩

/-- A whole number that is short enough is read back from its numeral. -/
theorem readNumber_intNumeral {number : Int} (short : Number.isShort number = true)
    (closes : Closes rest) :
    readNumber (Number.intNumeral number ++ rest) = .ok (.int number, rest) := by
  have fraction := readFraction_of_closes closes
  have power := readPower_of_closes closes
  have few : ¬ Number.longestNumeral < (Number.digits number.natAbs).length := by
    simpa [Number.isShort] using short
  cases number with
  | ofNat number =>
    have whole := readWhole_natNumeral number closes
    obtain ⟨c, later, starts, digit⟩ := exists_natNumeral_eq_cons number
    have fewToo : ¬ Number.longestNumeral < (Number.digits number).length := few
    rw [Number.intNumeral, readNumber]
    · simp [whole, fraction, power, Number.ofDigits_digits, fewToo]
    · intro others same
      rw [starts] at same
      exact ne_of_digit digit (by decide) (List.cons_eq_cons.mp same).1
  | negSucc less =>
    have whole := readWhole_natNumeral (less + 1) closes
    have fewToo : ¬ Number.longestNumeral < (Number.digits (less + 1)).length := few
    simp [Number.intNumeral, readNumber, whole, fraction, power, Number.ofDigits_digits,
      Int.negSucc_eq, fewToo]

/-- No word is the beginning of a numeral, which is therefore read as a number. -/
theorem readAtom_intNumeral {number : Int} (short : Number.isShort number = true)
    (closes : Closes rest) :
    readAtom (Number.intNumeral number ++ rest) = .ok (.int number, rest) := by
  have other {c letter : Char} (digit : '0' ≤ c ∧ c ≤ '9')
      (noDigit : ¬ ('0' ≤ letter ∧ letter ≤ '9')) : (letter == c) = false :=
    beq_eq_false_iff_ne.mpr (ne_of_digit digit noDigit).symm
  have wordless : (words.find? fun word =>
      word.1.toList.isPrefixOf (Number.intNumeral number ++ rest)) = none := by
    cases number with
    | ofNat number =>
      obtain ⟨c, later, starts, digit⟩ := exists_natNumeral_eq_cons number
      simp [words, Number.intNumeral, starts, List.isPrefixOf, other digit]
    | negSucc less =>
      -- One word starts with a sign as well, but goes on with a letter.
      obtain ⟨c, later, starts, digit⟩ := exists_natNumeral_eq_cons (less + 1)
      simp [words, Number.intNumeral, starts, List.isPrefixOf, other digit]
  rw [readAtom, wordless, readNumber_intNumeral short closes]

end Numeral

end AccessPolicy.Json
