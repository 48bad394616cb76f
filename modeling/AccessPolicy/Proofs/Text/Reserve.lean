import AccessPolicy.Text.Reserve
import Mathlib.Data.List.GetD
import Mathlib.Data.List.Nodup

/-! Characters that stand for halves of surrogate pairs: which they are, and when two join. -/

namespace AccessPolicy.Text

/-- A unit is half of a surrogate pair. -/
def IsHalf (unit : Nat) : Prop :=
  -- First and second halves are next to each other.
  0xD800 ≤ unit ∧ unit ≤ 0xDFFF

/-- A unit is half of a pair where it is the first or the second one. -/
theorem isHalf_iff {unit : Nat} :
    IsHalf unit ↔ isHighSurrogate unit = true ∨ isLowSurrogate unit = true := by
  simp only [IsHalf, isHighSurrogate, isLowSurrogate, Bool.and_eq_true, decide_eq_true_eq]
  omega

/-- The code of a character is half of no pair. -/
theorem not_isHalf (c : Char) : ¬ IsHalf c.toNat := by
  have valid : c.toNat < 0xD800 ∨ 0xDFFF < c.toNat ∧ c.toNat < 0x110000 := c.valid
  simp only [IsHalf]
  omega

/-- No unit is the first and the second half of a pair. -/
theorem not_high_of_low {unit : Nat} (low : isLowSurrogate unit = true) :
    isHighSurrogate unit = false := by
  simp only [isLowSurrogate, isHighSurrogate, Bool.and_eq_true, Bool.and_eq_false_iff,
    decide_eq_true_eq, decide_eq_false_iff_not] at low ⊢
  omega

namespace Reserve

variable {reserve : Reserve} {c d : Char} {unit : Nat} {chars : List Char}

/-- The character that stands for a half is the one at its place. -/
theorem standIn_of_isHalf (reserve : Reserve) (half : IsHalf unit) :
    ∃ inside : unit - 0xD800 < reserve.characters.length,
      reserve.standIn unit = reserve.characters[unit - 0xD800] := by
  have inside : unit - 0xD800 < reserve.characters.length := by
    rw [reserve.length_eq]
    obtain ⟨least, greatest⟩ := half
    omega
  exact ⟨inside, List.getD_eq_getElem _ _ inside⟩

/-- A character stands for a half where it is the one that the half has. -/
theorem half?_eq_some_iff :
    reserve.half? c = some unit ↔ IsHalf unit ∧ c = reserve.standIn unit := by
  unfold half?
  constructor
  · intro found
    split at found
    · rename_i listed
      cases found
      have place := List.idxOf_lt_length_of_mem listed.2
      have half : IsHalf (0xD800 + reserve.characters.idxOf c) := by
        rw [reserve.length_eq] at place
        simp only [IsHalf]
        omega
      obtain ⟨inside, stands⟩ := reserve.standIn_of_isHalf half
      refine ⟨half, ?_⟩
      rw [stands]
      simp only [Nat.add_sub_cancel_left]
      exact (List.getElem_idxOf place).symm
    · cases found
  · intro ⟨half, same⟩
    obtain ⟨inside, stands⟩ := reserve.standIn_of_isHalf half
    have listed : c ∈ reserve.characters := by
      rw [same, stands]
      exact List.getElem_mem inside
    rw [if_pos ⟨reserve.ideographic c listed, listed⟩, same, stands,
      reserve.nodup.idxOf_getElem _ inside]
    obtain ⟨least, greatest⟩ := half
    exact congrArg some (by omega)

/-- What a character stands for is half of a pair. -/
theorem isHalf_of_half? (found : reserve.half? c = some unit) : IsHalf unit :=
  (half?_eq_some_iff.mp found).1

/-- A character of the basic plane stands for itself. -/
theorem half?_of_basic (basic : c.toNat ≤ 0xFFFF) : reserve.half? c = none := by
  have plain : isIdeograph c = false := by
    simp only [isIdeograph, Bool.and_eq_false_iff, decide_eq_false_iff_not]
    omega
  rw [half?, if_neg (by simp [plain])]

/-- The character of a half is the one that stands for it. -/
theorem unitChar_of_isHalf (half : IsHalf unit) : reserve.unitChar unit = reserve.standIn unit := by
  rw [unitChar, if_pos (isHalf_iff.mp half)]

/-- The code of a character is read as the character. -/
theorem unitChar_toNat (c : Char) : reserve.unitChar c.toNat = c := by
  have whole := not_isHalf c
  rw [isHalf_iff] at whole
  rw [unitChar, if_neg whole, Char.ofNat_toNat]

/-- Two characters join where they stand for the two halves of a pair. -/
theorem pair?_eq_some_iff {whole : Char} : reserve.pair? c d = some whole ↔
    ∃ high low, reserve.half? c = some high ∧ reserve.half? d = some low ∧
      isHighSurrogate high = true ∧ isLowSurrogate low = true ∧ whole = pairChar high low := by
  constructor
  · intro found
    unfold pair? at found
    split at found
    · rename_i high low first second
      split at found
      · rename_i halves
        exact ⟨high, low, first, second, halves.1, halves.2, (Option.some.inj found).symm⟩
      · cases found
    · cases found
  · intro ⟨high, low, first, second, isHigh, isLow, same⟩
    rw [same, pair?, first, second]
    exact if_pos ⟨isHigh, isLow⟩

/-- No first half of a pair stands directly before a second one. -/
def IsApart (reserve : Reserve) (chars : List Char) : Prop :=
  ∀ c d, [c, d] <:+: chars → reserve.pair? c d = none

/-- A text in which the halves of pairs are apart is joined already. -/
theorem IsApart.joined_eq_self (apart : reserve.IsApart chars) : reserve.joined chars = chars := by
  induction chars using joined.induct reserve with
  | case1 => rfl
  | case2 c => rfl
  | case3 c d rest whole found =>
    cases found.symm.trans (apart c d ⟨[], rest, rfl⟩)
  | case4 c d rest found ih =>
    have behind : reserve.joined (d :: rest) = d :: rest := by
      refine ih fun first second ⟨before, after, split⟩ =>
        apart first second ⟨c :: before, after, ?_⟩
      rw [List.cons_append, List.cons_append, split]
    simp only [joined, found, behind]

/-- A string in which the halves of pairs are apart is joined already. -/
theorem IsApart.joinedText_eq_self {text : String} (apart : reserve.IsApart text.toList) :
    reserve.joinedText text = text := by
  rw [joinedText, apart.joined_eq_self, String.ofList_toList]

end Reserve

end AccessPolicy.Text
