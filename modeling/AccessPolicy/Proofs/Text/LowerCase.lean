import AccessPolicy.Text.LowerCase

/-!
Lower-casing a text twice is lower-casing it once.

A character is settled if it is its own lower case and no capital sigma. Whatever a lower-cased
text consists of is settled, which the table of shifts is checked for once, and a text of settled
characters is its own lower case.
-/

namespace AccessPolicy.Text

/-- The code points that a shift moves. -/
def Shift.sources (shift : Shift) : List Nat :=
  -- They are counted from the first one.
  ((List.range (shift.last + 1 - shift.first)).map (shift.first + ·)).filter shift.contains

/-- The code points to which a shift moves others. -/
def Shift.targets (shift : Shift) : List Nat :=
  -- All of them move by the same distance.
  shift.sources.map fun (code : Nat) => (code + shift.distance).toNat

/-- The sources of a shift are what it contains. -/
theorem Shift.mem_sources_iff {shift : Shift} {code : Nat} :
    code ∈ shift.sources ↔ shift.contains code = true := by
  rw [sources, List.mem_filter, List.mem_map, and_iff_right_iff_imp]
  intro contained
  simp only [contains, Bool.and_eq_true, decide_eq_true_eq] at contained
  exact ⟨code - shift.first, List.mem_range.mpr (by omega), by omega⟩

/-- A set of code points as a number, which has a bit for each of them. -/
def codeSet (codes : List Nat) : Nat :=
  -- Bits can be looked up without going through a list.
  codes.foldr (fun code set => 1 <<< code ||| set) 0

/-- The bits of a set stand for its members. -/
theorem testBit_codeSet_iff {codes : List Nat} {code : Nat} :
    (codeSet codes).testBit code = true ↔ code ∈ codes := by
  induction codes with
  | nil => simp [codeSet]
  | cons first later ih =>
    have step : codeSet (first :: later) = 1 <<< first ||| codeSet later := rfl
    rw [step, Nat.testBit_or, Bool.or_eq_true, ih, List.mem_cons, Nat.one_shiftLeft,
      Nat.testBit_two_pow, decide_eq_true_eq, eq_comm]

/-- All code points that have another lower case. -/
def movedCodes : Nat := codeSet (lowerShifts.flatMap Shift.sources)

/-- Where the table moves a character, a shift has its code point as a source. -/
theorem testBit_movedCodes_of_shifted {code : Nat} {c : Char}
    (moved : shifted? lowerShifts code = some c) :
    movedCodes.testBit code = true ∧
      ∃ shift ∈ lowerShifts, ∃ target ∈ shift.targets, c = Char.ofNat target := by
  obtain ⟨shift, found, rfl⟩ := Option.map_eq_some_iff.mp moved
  have listed := List.mem_of_find?_eq_some found
  have contained := List.find?_some found
  have source := Shift.mem_sources_iff.mpr contained
  refine ⟨testBit_codeSet_iff.mpr (List.mem_flatMap.mpr ⟨shift, listed, source⟩), shift, listed, ?_⟩
  exact ⟨_, List.mem_map.mpr ⟨code, source, rfl⟩, rfl⟩

/-- Whether a code point beyond ASCII is that of a character that has no other lower case. -/
def isUnmoved (code : Nat) : Bool :=
  -- The table does not list the dotted capital I.
  128 ≤ code && code != 0x130 && !movedCodes.testBit code && decide code.isValidChar

/-- Shifts lead to characters that are not moved again, and to the letter k in ASCII. -/
theorem isUnmoved_of_mem_targets {shift : Shift} (listed : shift ∈ lowerShifts) {code : Nat}
    (target : code ∈ shift.targets) : isUnmoved code = true ∨ code = 0x6B := by
  have all : lowerShifts.all (fun shift => shift.targets.all fun code =>
      isUnmoved code || code == 0x6B) = true := by decide +kernel
  have here := List.all_eq_true.mp (List.all_eq_true.mp all shift listed) code target
  simpa using here

/-- A character that stays what it is in lower case, wherever it stands. -/
def IsSettled (c : Char) : Prop :=
  -- The lower case of the sigma hangs on its neighbours, so it never stays.
  lowerChar c = [c] ∧ c ≠ capitalSigma

/-- A character beyond ASCII that the table does not move is settled. -/
theorem isSettled_of_unmoved {c : Char} (beyond : 128 ≤ c.toNat) (undotted : c.toNat ≠ 0x130)
    (unmoved : shifted? lowerShifts c.toNat = none) : IsSettled c := by
  constructor
  · rw [lowerChar, if_neg (Nat.not_lt.mpr beyond), if_neg undotted, unmoved]
    rfl
  · -- The sigma is in the table.
    rintro rfl
    exact absurd unmoved (by decide +kernel)

/-- What a shift leads to is settled. -/
theorem isSettled_of_mem_targets {shift : Shift} (listed : shift ∈ lowerShifts) {code : Nat}
    (target : code ∈ shift.targets) : IsSettled (Char.ofNat code) := by
  rcases isUnmoved_of_mem_targets listed target with unmoved | rfl
  · simp only [isUnmoved, Bool.and_eq_true, decide_eq_true_eq, bne_iff_ne, ne_eq,
      Bool.not_eq_true'] at unmoved
    obtain ⟨⟨⟨beyond, undotted⟩, unlisted⟩, valid⟩ := unmoved
    have same : (Char.ofNat code).toNat = code := by
      rw [Char.ofNat, dif_pos valid]
      rfl
    apply isSettled_of_unmoved
    · rwa [same]
    · rwa [same]
    · rw [same, Option.eq_none_iff_forall_ne_some]
      intro c moved
      simp [(testBit_movedCodes_of_shifted moved).1] at unlisted
  · exact ⟨by decide, by decide⟩

/-- Going to lower case moves the capital letters of ASCII alone, and all by one distance. -/
theorem toLower_cases (c : Char) :
    c.toLower = c ∨ (65 ≤ c.toNat ∧ c.toNat ≤ 90) ∧ c.toLower.toNat = c.toNat + 32 := by
  by_cases capital : c.val ≥ 'A'.val ∧ c.val ≤ 'Z'.val
  · have bounds : 65 ≤ c.toNat ∧ c.toNat ≤ 90 := capital
    -- Code points are words, and there is room for the distance.
    have moved : c.toLower.toNat = (c.toNat + 32) % 2 ^ 32 :=
      congrArg Char.toNat (dif_pos capital : c.toLower = _)
    exact .inr ⟨bounds, by omega⟩
  · exact .inl (dif_neg capital)

theorem toLower_toLower (c : Char) : c.toLower.toLower = c.toLower := by
  rcases toLower_cases c.toLower with again | ⟨capital, -⟩
  · exact again
  · -- No capital is left after the first time.
    rcases toLower_cases c with same | ⟨bounds, moved⟩
    · rw [same, same]
    · omega

/-- The lower case of an ASCII character is one. -/
theorem toLower_ascii {c : Char} (ascii : c.toNat < 128) : c.toLower.toNat < 128 := by
  rcases toLower_cases c with same | ⟨bounds, moved⟩
  · rwa [same]
  · omega

/-- The lower case of an ASCII character is settled. -/
theorem isSettled_toLower {c : Char} (ascii : c.toNat < 128) : IsSettled c.toLower := by
  have low := toLower_ascii ascii
  constructor
  · rw [lowerChar, if_pos low, toLower_toLower]
  · intro sigma
    rw [sigma] at low
    exact absurd low (by decide)

/-- The lower case of a character consists of settled characters. -/
theorem isSettled_of_mem_lowerChar {c d : Char} (inside : d ∈ lowerChar c) : IsSettled d := by
  unfold lowerChar at inside
  split at inside
  · rename_i ascii
    rw [List.mem_singleton.mp inside]
    exact isSettled_toLower ascii
  · rename_i beyond
    split at inside
    · -- The dotted capital I comes apart into a letter and a mark.
      simp only [List.mem_cons, List.not_mem_nil, or_false] at inside
      rcases inside with rfl | rfl
      · exact ⟨by decide, by decide⟩
      · exact ⟨by decide +kernel, by decide⟩
    · rename_i undotted
      rw [List.mem_singleton.mp inside]
      cases moved : shifted? lowerShifts c.toNat with
      | some target =>
        obtain ⟨-, shift, listed, code, targeted, rfl⟩ := testBit_movedCodes_of_shifted moved
        exact isSettled_of_mem_targets listed targeted
      | none => exact isSettled_of_unmoved (Nat.not_lt.mp beyond) undotted moved

/-- A lower-cased text consists of settled characters. -/
theorem isSettled_of_mem_lowerAfter {before chars : List Char} {d : Char}
    (inside : d ∈ lowerAfter before chars) : IsSettled d := by
  induction chars generalizing before with
  | nil => simp [lowerAfter] at inside
  | cons c rest ih =>
    rw [lowerAfter] at inside
    rcases List.mem_append.mp inside with here | behind
    · split at here
      · -- A sigma takes one of two forms, and both are settled.
        rw [List.mem_singleton.mp here]
        split <;> exact ⟨by decide +kernel, by decide⟩
      · exact isSettled_of_mem_lowerChar here
    · exact ih behind

/-- A text of settled characters is its own lower case. -/
theorem lowerAfter_of_settled {before chars : List Char} (settled : ∀ c ∈ chars, IsSettled c) :
    lowerAfter before chars = chars := by
  induction chars generalizing before with
  | nil => rfl
  | cons c rest ih =>
    obtain ⟨⟨alone, other⟩, others⟩ := List.forall_mem_cons.mp settled
    rw [lowerAfter, if_neg other, alone, ih others]
    rfl

/-- Lower-casing a lower-cased text changes nothing. -/
@[simp] theorem lower_lower (text : String) : lower (lower text) = lower text := by
  have settled : ∀ c ∈ lowerChars text.toList, IsSettled c :=
    fun _ inside => isSettled_of_mem_lowerAfter inside
  have again : lowerChars (lowerChars text.toList) = lowerChars text.toList :=
    lowerAfter_of_settled settled
  simp only [lower, String.toList_ofList, again]

end AccessPolicy.Text
