import AccessPolicy.Net.Network
import AccessPolicy.Proofs.Net.Address
import Mathlib.Data.Nat.Bitwise

/-!
Blocks of addresses: how they are written, and which addresses belong to them.

A block is written as any of its addresses with the length of the common part behind it. Its members
are the addresses of one version whose numbers lie in an interval that starts at a multiple of its
size, which is the same as agreeing with the written address under the mask of the block.
-/

namespace AccessPolicy.Net

/-- Characters are the length of the common part of addresses of a version. -/
inductive Network.SpellsLength (version : Version) : List Char → Nat → Prop where
  /-- The length is written as a number. -/
  | count {chars : List Char} {ds : List Nat}
      (digits : List.Forall₂ (fun c digit => Text.asciiDigit? c = some digit) chars ds)
      (filled : ds ≠ []) (short : ds.length ≤ Number.longestNumeral)
      (within : Number.ofDigits ds ≤ version.width) :
      SpellsLength version chars (Number.ofDigits ds)
  /-- The length is written as a mask, in which the bits of the common part are set. -/
  | mask {chars : List Char} {number length : Nat} (four : version = .four)
      (spelled : Address.read? chars = some ⟨.four, number, none⟩) (within : length ≤ 32)
      (ones : number = 2 ^ 32 - 2 ^ (32 - length)) : SpellsLength version chars length
  /-- The length is written as a mask, in which the bits behind the common part are set. -/
  | hosts {chars : List Char} {number length : Nat} (four : version = .four)
      (spelled : Address.read? chars = some ⟨.four, number, none⟩) (positive : 0 < length)
      (proper : length < 32) (ones : number + 1 = 2 ^ (32 - length)) :
      SpellsLength version chars length

/-- Characters are an address of a block and the length of its common part. -/
inductive Network.WrittenAs : List Char → Address → Nat → Prop where
  /-- A bare address is a block of its own. -/
  | alone {chars : List Char} {base : Address} (spelled : Address.read? chars = some base) :
      WrittenAs chars base base.version.width
  /-- The length stands behind a slash. -/
  | block {front behind : List Char} {base : Address} {length : Nat}
      (spelled : Address.read? front = some base)
      (counted : SpellsLength base.version behind length) :
      WrittenAs (front ++ '/' :: behind) base length

/-- An address lies in the block around another one that has a common part of a length. -/
structure Address.LiesIn (address base : Address) (length : Nat) : Prop where
  version : address.version = base.version
  /-- The interval starts at the multiple of its size at or before the other address. -/
  first : base.number / 2 ^ (base.version.width - length) * 2 ^ (base.version.width - length) ≤
    address.number
  last : address.number <
    (base.number / 2 ^ (base.version.width - length) + 1) * 2 ^ (base.version.width - length)

namespace Network

variable {chars : List Char} {length number : Nat} {base address : Address} {network : Network}

/-- There is one mask for every length. -/
theorem maskLength?_eq_some_iff :
    maskLength? number = some length ↔ length ≤ 32 ∧ number = 2 ^ 32 - 2 ^ (32 - length) := by
  rw [maskLength?, List.find?_range_eq_some]
  simp only [Nat.pow_eq, beq_iff_eq, List.mem_range, Bool.not_eq_true', beq_eq_false_iff_ne]
  constructor
  · rintro ⟨rfl, within, -⟩
    exact ⟨Nat.le_of_lt_succ within, rfl⟩
  · rintro ⟨within, rfl⟩
    refine ⟨rfl, Nat.lt_succ_of_le within, fun shorter less => ?_⟩
    -- A shorter common part leaves more bits unset.
    have more : 2 ^ (32 - length) < 2 ^ (32 - shorter) :=
      Nat.pow_lt_pow_right (by decide) (by omega)
    have all : 2 ^ (32 - shorter) ≤ 2 ^ 32 := Nat.pow_le_pow_right (by decide) (Nat.sub_le _ _)
    omega

/-- A length is read as a number where it is written as one. -/
theorem readLength?_eq_some_iff {width : Nat} :
    readLength? width chars = some length ↔
      ∃ ds, List.Forall₂ (fun c digit => Text.asciiDigit? c = some digit) chars ds ∧ ds ≠ [] ∧
        ds.length ≤ Number.longestNumeral ∧ Number.ofDigits ds = length ∧ length ≤ width := by
  simp only [← mapM_eq_some_iff, readLength?]
  cases chars.mapM Text.asciiDigit? with
  | none => simp
  | some ds =>
    simp only [Option.some.injEq, exists_eq_left', Bool.or_eq_true, List.isEmpty_iff,
      decide_eq_true_iff]
    split
    · rename_i refused
      refine iff_of_false (by simp) ?_
      rintro ⟨filled, short, -⟩
      exact refused.elim filled (Nat.not_lt.mpr short)
    · rename_i sized
      obtain ⟨filled, short⟩ := not_or.mp sized
      split
      · rename_i within
        simp only [Option.some.injEq, filled, Nat.not_lt.mp short, ne_eq, not_false_eq_true,
          true_and, iff_self_and]
        rintro rfl
        exact within
      · rename_i beyond
        refine iff_of_false (by simp) ?_
        rintro ⟨-, -, rfl, within⟩
        exact beyond within

/-- A mask in which the bits behind a proper common part are set is no mask of the other kind. -/
theorem maskLength?_of_hosts (positive : 0 < length) (proper : length < 32)
    (ones : number + 1 = 2 ^ (32 - length)) : maskLength? number = none := by
  refine Option.eq_none_iff_forall_ne_some.mpr fun other found => ?_
  obtain ⟨within, otherOnes⟩ := maskLength?_eq_some_iff.mp found
  have even (count : Nat) (filled : 0 < count) : 2 ^ count % 2 = 0 := by
    obtain ⟨less, rfl⟩ := Nat.exists_eq_succ_of_ne_zero filled.ne'
    rw [Nat.pow_succ, Nat.mul_mod_left]
  have odd := even (32 - length) (by omega)
  have less : 2 ^ (32 - length) < 2 ^ 32 := Nat.pow_lt_pow_right (by decide) (by omega)
  -- The first bit is set, which a mask for the network has only where it has all bits set.
  rcases Nat.lt_or_ge other 32 with shorter | full
  · have rest := even (32 - other) (by omega)
    omega
  · obtain rfl : other = 32 := Nat.le_antisymm within full
    omega

/-- A length is read from a mask of either kind. -/
theorem readMask?_eq_some_iff :
    readMask? chars = some length ↔ ∃ number, Address.readFour? chars = some number ∧
      ((length ≤ 32 ∧ number = 2 ^ 32 - 2 ^ (32 - length)) ∨
        (0 < length ∧ length < 32 ∧ number + 1 = 2 ^ (32 - length))) := by
  unfold readMask?
  cases read : Address.readFour? chars with
  | none => simp
  | some number =>
    have bounded := Address.lt_of_readFour? read
    simp only [Option.or_eq_some_iff, maskLength?_eq_some_iff, Option.some.injEq, exists_eq_left',
      Nat.pow_eq]
    have power := Nat.two_pow_pos (32 - length)
    have below : 2 ^ (32 - length) ≤ 2 ^ 32 :=
      Nat.pow_le_pow_right (by decide) (Nat.sub_le _ _)
    constructor
    · rintro (ones | ⟨unset, within, flipped⟩)
      · exact .inl ones
      · -- Masks of only ones and of only zeros are masks for the network.
        have positive : length ≠ 0 := by
          rintro rfl
          have full : maskLength? number = some 32 := maskLength?_eq_some_iff.mpr (by omega)
          simp [unset] at full
        have proper : length ≠ 32 := by
          rintro rfl
          have empty : maskLength? number = some 0 := maskLength?_eq_some_iff.mpr (by omega)
          simp [unset] at empty
        exact .inr (by omega)
    · rintro (ones | ⟨positive, proper, ones⟩)
      · exact .inl ones
      · exact .inr ⟨maskLength?_of_hosts positive proper ones, by omega, by omega⟩

/-- The length of the common part of addresses of version six is written as a number alone. -/
theorem readLength?_iff_of_six :
    readLength? 128 chars = some length ↔ SpellsLength .six chars length := by
  rw [readLength?_eq_some_iff]
  constructor
  · rintro ⟨ds, digits, filled, short, rfl, within⟩
    exact .count digits filled short within
  · intro spells
    cases spells with
    | count digits filled short within => exact ⟨_, digits, filled, short, rfl, within⟩
    | mask four => cases four
    | hosts four => cases four

/-- A mask is no number, since it has points in it. -/
theorem readLength?_of_readFour? {width : Nat} (read : Address.readFour? chars = some number) :
    readLength? width chars = none := by
  refine Option.eq_none_iff_forall_ne_some.mpr fun length counted => ?_
  obtain ⟨ds, digits, -⟩ := readLength?_eq_some_iff.mp counted
  obtain ⟨digit, -, value⟩ := exists_of_mem_left digits (Address.mem_of_readFour? read).1
  cases value

/-- The length of the common part of addresses of version four is written as a number or a mask. -/
theorem readLength?_or_readMask?_iff :
    (readLength? 32 chars).or (readMask? chars) = some length ↔
      SpellsLength .four chars length := by
  rw [Option.or_eq_some_iff, readLength?_eq_some_iff, readMask?_eq_some_iff]
  constructor
  · rintro (⟨ds, digits, filled, short, rfl, within⟩ | ⟨-, number, read, ones⟩)
    · exact .count digits filled short within
    · have spelled := Address.read?_four_iff.mpr read
      rcases ones with ⟨within, ones⟩ | ⟨positive, proper, ones⟩
      · exact .mask rfl spelled within ones
      · exact .hosts rfl spelled positive proper ones
  · intro spells
    cases spells with
    | count digits filled short within => exact .inl ⟨_, digits, filled, short, rfl, within⟩
    | mask _ spelled within ones =>
      have read := Address.read?_four_iff.mp spelled
      exact .inr ⟨readLength?_of_readFour? read, _, read, .inl ⟨within, ones⟩⟩
    | hosts _ spelled positive proper ones =>
      have read := Address.read?_four_iff.mp spelled
      exact .inr ⟨readLength?_of_readFour? read, _, read, .inr ⟨positive, proper, ones⟩⟩

/-- A single address is a block with the address as its base. -/
theorem masked_width (base : Address) :
    masked base base.version.width = ⟨base, base.version.width⟩ := by
  simp [masked, Nat.mod_one]

/-- A text without a slash is read as a block where it is an address. -/
theorem readBare_eq_some_iff (unmarked : '/' ∉ chars) :
    (readFour? chars none).or (readSix? chars none) = some network ↔
      ∃ base, Address.read? chars = some base ∧ masked base base.version.width = network := by
  simp only [Address.read?_eq_some_iff, masked_width]
  cases four : Address.readFour? chars with
  | some number =>
    have six := Address.readScoped?_of_readFour? four
    simp [readFour?, four, six, unmarked, Version.width]
  | none =>
    cases six : Address.readScoped? chars with
    | none => simp [readFour?, readSix?, four, six]
    | some base =>
      obtain ⟨_, number, scope, -, rfl⟩ := Address.exists_number_of_readScoped? six
      simp [readFour?, readSix?, four, six, unmarked, Version.width]

/-- An address and what stands behind a slash are read as a block where that is a length. -/
theorem readMarked_eq_some_iff {behind : List Char} (unmarked : '/' ∉ chars) :
    (readFour? chars (some behind)).or (readSix? chars (some behind)) = some network ↔
      ∃ base length, Address.read? chars = some base ∧ SpellsLength base.version behind length ∧
        masked base length = network := by
  simp only [Address.read?_eq_some_iff]
  cases four : Address.readFour? chars with
  | some number =>
    have six := Address.readScoped?_of_readFour? four
    simp [readFour?, readSix?, four, six, unmarked, readLength?_or_readMask?_iff,
      -Option.or_eq_some_iff]
  | none =>
    cases six : Address.readScoped? chars with
    | none => simp [readFour?, readSix?, four, six]
    | some base =>
      obtain ⟨_, number, scope, -, rfl⟩ := Address.exists_number_of_readScoped? six
      simp [readFour?, readSix?, four, six, unmarked, readLength?_iff_of_six]

/-- A length has no slash in it. -/
theorem SpellsLength.unmarked {version : Version} (spells : SpellsLength version chars length) :
    '/' ∉ chars := by
  intro slash
  cases spells with
  | count digits =>
    obtain ⟨digit, -, value⟩ := exists_of_mem_left digits slash
    cases value
  | mask _ spelled => exact (Address.read?_eq_some_iff.mp spelled).1 slash
  | hosts _ spelled => exact (Address.read?_eq_some_iff.mp spelled).1 slash

/-- Without a slash, the block of an address is written as the address. -/
theorem writtenAs_iff_of_bare (unmarked : '/' ∉ chars) :
    WrittenAs chars base length ↔
      Address.read? chars = some base ∧ base.version.width = length := by
  constructor
  · intro written
    cases written with
    | alone spelled => exact ⟨spelled, rfl⟩
    | block => simp at unmarked
  · rintro ⟨spelled, rfl⟩
    exact .alone spelled

/-- With a slash, the address stands before it and the length behind it. -/
theorem writtenAs_iff_of_cut {front behind : List Char}
    (cut : Text.cut '/' chars = (front, some behind)) :
    WrittenAs chars base length ↔
      Address.read? front = some base ∧ SpellsLength base.version behind length := by
  obtain ⟨rfl, unmarked⟩ := Text.cut_eq_some_iff.mp cut
  constructor
  · generalize whole : front ++ '/' :: behind = chars at cut
    intro written
    cases written with
    | alone spelled =>
      have bare := (Address.read?_eq_some_iff.mp spelled).1
      simp [← whole] at bare
    | block spelled counted =>
      have other := (Address.read?_eq_some_iff.mp spelled).1
      rw [Text.cut_eq_some_iff.mpr ⟨rfl, other⟩] at cut
      cases cut
      exact ⟨spelled, counted⟩
  · rintro ⟨spelled, counted⟩
    exact .block spelled counted

/-- A text is read as the block around the address that is written in it. -/
theorem read?_eq_some_iff :
    read? chars = some network ↔
      ∃ base length, WrittenAs chars base length ∧ masked base length = network := by
  unfold read?
  rcases cut : Text.cut '/' chars with ⟨front, _ | behind⟩
  · obtain ⟨rfl, unmarked⟩ := Text.cut_eq_none_iff.mp cut
    simp [readBare_eq_some_iff unmarked, writtenAs_iff_of_bare unmarked, and_assoc]
  · have unmarked := (Text.cut_eq_some_iff.mp cut).2
    simp only [writtenAs_iff_of_cut cut, Option.getD_some, List.contains_iff_mem, and_assoc]
    split
    · -- There is no length with another slash in it.
      rename_i again
      refine iff_of_false (by simp) ?_
      rintro ⟨base, length, -, counted, -⟩
      exact counted.unmarked again
    · exact readMarked_eq_some_iff unmarked

/-- A length is written in a text as one number only. -/
theorem SpellsLength.unique {version : Version} {lengthToo : Nat}
    (spells : SpellsLength version chars length)
    (spellsToo : SpellsLength version chars lengthToo) : length = lengthToo := by
  cases version with
  | four =>
    rw [← readLength?_or_readMask?_iff] at spells spellsToo
    exact Option.some.inj (spells.symm.trans spellsToo)
  | six =>
    rw [← readLength?_iff_of_six] at spells spellsToo
    exact Option.some.inj (spells.symm.trans spellsToo)

/-- A text is written with one address and one length only. -/
theorem WrittenAs.unique {other : Address} {lengthToo : Nat} (written : WrittenAs chars base length)
    (writtenToo : WrittenAs chars other lengthToo) : base = other ∧ length = lengthToo := by
  rcases cut : Text.cut '/' chars with ⟨front, _ | behind⟩
  · have unmarked := (Text.cut_eq_none_iff.mp cut).2
    obtain ⟨spelled, rfl⟩ := (writtenAs_iff_of_bare unmarked).mp written
    obtain ⟨spelledToo, rfl⟩ := (writtenAs_iff_of_bare unmarked).mp writtenToo
    obtain rfl := Option.some.inj (spelled.symm.trans spelledToo)
    exact ⟨rfl, rfl⟩
  · obtain ⟨spelled, counted⟩ := (writtenAs_iff_of_cut cut).mp written
    obtain ⟨spelledToo, countedToo⟩ := (writtenAs_iff_of_cut cut).mp writtenToo
    obtain rfl := Option.some.inj (spelled.symm.trans spelledToo)
    exact ⟨rfl, counted.unique countedToo⟩

/-- The common part is no longer than an address. -/
theorem WrittenAs.length_le (written : WrittenAs chars base length) :
    length ≤ base.version.width := by
  cases written with
  | alone => exact Nat.le_refl _
  | block _ counted =>
    cases counted with
    | count _ _ _ within => exact within
    | mask four _ within => simpa [four, Version.width] using within
    | hosts four _ _ proper => simpa [four, Version.width] using Nat.le_of_lt proper

/-- The written address of a block has no more bits than its version provides for. -/
theorem WrittenAs.lt (written : WrittenAs chars base length) :
    base.number < 2 ^ base.version.width := by
  cases written with
  | alone spelled => exact Address.lt_of_read? spelled
  | block spelled => exact Address.lt_of_read? spelled

/-- The number of the first address of a block is that of any of its addresses, rounded down. -/
theorem masked_spec (base : Address) (length : Nat) :
    (masked base length).base.version = base.version ∧ (masked base length).length = length ∧
      (masked base length).base.number / 2 ^ (base.version.width - length) =
        base.number / 2 ^ (base.version.width - length) := by
  unfold masked
  simp only [Nat.pow_eq]
  split
  · exact ⟨rfl, rfl, rfl⟩
  · refine ⟨rfl, rfl, ?_⟩
    have rounded := Nat.div_add_mod base.number (2 ^ (base.version.width - length))
    rw [Nat.sub_eq_of_eq_add rounded.symm, Nat.mul_div_cancel_left _ (Nat.two_pow_pos _)]

/-- A quotient is that of another number exactly where a number lies in the interval of that. -/
theorem div_eq_div_iff {size first second : Nat} (positive : 0 < size) :
    first / size = second / size ↔
      second / size * size ≤ first ∧ first < (second / size + 1) * size := by
  rw [Nat.div_eq_iff positive, Nat.add_mul]
  omega

/-- The members of a block are the addresses that lie in it. -/
theorem contains_masked_iff :
    (masked base length).contains address = true ↔ address.LiesIn base length := by
  obtain ⟨version, counted, same⟩ := masked_spec base length
  simp only [contains, version, counted, Nat.pow_eq, same, Bool.and_eq_true, decide_eq_true_iff,
    div_eq_div_iff (Nat.two_pow_pos _)]
  constructor
  · rintro ⟨versions, first, last⟩
    exact ⟨versions.symm, first, last⟩
  · rintro ⟨versions, first, last⟩
    exact ⟨versions.symm, first, last⟩

/-- A mask of ones followed by zeros rounds a number down to a multiple of the lowest one. -/
theorem and_mask_eq {number width zeros : Nat} (bounded : number < 2 ^ width)
    (within : zeros ≤ width) :
    number &&& (2 ^ width - 2 ^ zeros) = number / 2 ^ zeros * 2 ^ zeros := by
  have ones : 2 ^ width - 2 ^ zeros = (2 ^ (width - zeros) - 1) * 2 ^ zeros := by
    rw [Nat.sub_mul, ← Nat.pow_add, Nat.sub_add_cancel within, Nat.one_mul]
  rw [ones]
  refine Nat.eq_of_testBit_eq fun place => ?_
  rw [Nat.testBit_and, Nat.testBit_mul_two_pow, Nat.testBit_mul_two_pow,
    Nat.testBit_two_pow_sub_one, Nat.testBit_div_two_pow]
  by_cases low : zeros ≤ place
  · by_cases high : place < width
    · have one : place - zeros < width - zeros := by omega
      simp [low, one]
    · -- The number has no bit there.
      have beyond : number < 2 ^ place :=
        Nat.lt_of_lt_of_le bounded (Nat.pow_le_pow_right (by decide) (Nat.le_of_not_lt high))
      simp [low, Nat.testBit_lt_two_pow beyond]
  · simp [low]

/-- An address lies in a block exactly where it agrees with the written one under the mask. -/
theorem liesIn_iff_and_mask (written : WrittenAs chars base length)
    (bounded : address.number < 2 ^ address.version.width) :
    address.LiesIn base length ↔ address.version = base.version ∧
      address.number &&& (2 ^ base.version.width - 2 ^ (base.version.width - length)) =
        base.number &&& (2 ^ base.version.width - 2 ^ (base.version.width - length)) := by
  have zeros : base.version.width - length ≤ base.version.width := Nat.sub_le _ _
  have size := Nat.two_pow_pos (base.version.width - length)
  constructor
  · rintro ⟨version, first, last⟩
    rw [version] at bounded
    rw [and_mask_eq bounded zeros, and_mask_eq written.lt zeros,
      (div_eq_div_iff size).mpr ⟨first, last⟩]
    exact ⟨version, rfl⟩
  · rintro ⟨version, agree⟩
    rw [version] at bounded
    rw [and_mask_eq bounded zeros, and_mask_eq written.lt zeros] at agree
    obtain ⟨first, last⟩ := (div_eq_div_iff size).mp (Nat.eq_of_mul_eq_mul_right size agree)
    exact ⟨version, first, last⟩

end Network

end AccessPolicy.Net
