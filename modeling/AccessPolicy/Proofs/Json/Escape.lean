import AccessPolicy.Json.Reader
import AccessPolicy.Json.Writer
import AccessPolicy.Proofs.Text.Reserve

/-!
Strings: what is written between quotation marks is printable, and is read back.

Halves of a surrogate pair that stand together come back as the character of the pair.
-/

namespace AccessPolicy.Text

/-- The value of a hexadecimal digit is read back from the digit. -/
theorem hexDigit?_hexDigit {value : Nat} (small : value < 16) :
    hexDigit? (hexDigit value) = some value := by
  have all : ∀ value < 16, hexDigit? (hexDigit value) = some value := by decide
  exact all value small

end AccessPolicy.Text

namespace AccessPolicy.Json

/-- A character is printable ASCII, which no line break is. -/
def IsPrintable (c : Char) : Prop :=
  -- The blank is the first of these characters.
  ' ' ≤ c ∧ c ≤ '~'

/-- A character is printable where its code is in the row of printable ones. -/
theorem isPrintable_iff {c : Char} : IsPrintable c ↔ 0x20 ≤ c.toNat ∧ c.toNat ≤ 0x7E := Iff.rfl

/-- The digits of a unit are four. -/
theorem hexDigits_four (unit : Nat) :
    Text.hexDigits 4 unit = [Text.hexDigit (unit / 16 / 16 / 16 % 16),
      Text.hexDigit (unit / 16 / 16 % 16), Text.hexDigit (unit / 16 % 16),
      Text.hexDigit (unit % 16)] := rfl

/-- A unit is read back from its digits. -/
theorem unit?_hexDigits {unit : Nat} (small : unit < 0x10000) (rest : List Char) :
    unit? (Text.hexDigits 4 unit ++ rest) = some unit := by
  have first := Text.hexDigit?_hexDigit (Nat.mod_lt (unit / 16 / 16 / 16) (by decide : 0 < 16))
  have second := Text.hexDigit?_hexDigit (Nat.mod_lt (unit / 16 / 16) (by decide : 0 < 16))
  have third := Text.hexDigit?_hexDigit (Nat.mod_lt (unit / 16) (by decide : 0 < 16))
  have fourth := Text.hexDigit?_hexDigit (Nat.mod_lt unit (by decide : 0 < 16))
  have whole : ((unit / 16 / 16 / 16 % 16 * 16 + unit / 16 / 16 % 16) * 16 + unit / 16 % 16) * 16 +
      unit % 16 = unit := by omega
  simp [unit?, hexDigits_four, first, second, third, fourth, whole]

/-- The four digits of a unit, in front of more text. -/
theorem drop_hexDigits (unit : Nat) (rest : List Char) :
    (Text.hexDigits 4 unit ++ rest).drop 4 = rest := rfl

/-- An escape of a unit stands at the start of a text. -/
def StartsWith (next : Nat) (rest : List Char) : Prop :=
  -- Its digits are four.
  ∃ more, rest = '\\' :: 'u' :: more ∧ unit? more = some next

/-- A unit is not the first half of a pair of which the second one stands behind it. -/
def StandsAlone (unit : Nat) (rest : List Char) : Prop :=
  -- Whatever is escaped behind it is the escape of a unit.
  Text.isHighSurrogate unit = true → ∀ more, rest = '\\' :: 'u' :: more →
    ∃ next, unit? more = some next ∧ Text.isLowSurrogate next = false

section Units

variable {reserve : Text.Reserve} {unit : Nat} {letter rest : List Char}

/-- A unit that is not joined with the next one is read as its own character. -/
theorem readUnicodeEscape_unit (small : unit < 0x10000) (filled : rest ≠ [])
    (alone : StandsAlone unit rest) :
    readUnicodeEscape reserve letter (Text.hexDigits 4 unit ++ rest) =
      .ok (reserve.unitChar unit, rest) := by
  rw [readUnicodeEscape, drop_hexDigits, if_neg (by simpa using filled), unit?_hexDigits small]
  split
  · rename_i high found
    cases found
  · rename_i high found
    obtain rfl : unit = high := Option.some.inj found
    dsimp only
    split
    · rename_i more
      split
      · rename_i first
        obtain ⟨next, read, noLow⟩ := alone first.1 more rfl
        simp [read, noLow]
      · rfl
    · rfl

/-- The two halves of a pair are read as its character. -/
theorem readUnicodeEscape_pair {high low : Nat} (first : Text.isHighSurrogate high = true)
    (second : Text.isLowSurrogate low = true) (filled : rest ≠ []) :
    readUnicodeEscape reserve letter (Text.hexDigits 4 high ++ (Text.unitEscape low ++ rest)) =
      .ok (Text.pairChar high low, rest) := by
  have highHalf := Text.isHalf_iff.mpr (Or.inl first)
  have lowHalf := Text.isHalf_iff.mpr (Or.inr second)
  simp only [Text.IsHalf] at highHalf lowHalf
  have readHigh := unit?_hexDigits (by omega : high < 0x10000) (Text.unitEscape low ++ rest)
  have readLow := unit?_hexDigits (by omega : low < 0x10000) rest
  have behind : Text.unitEscape low ++ rest = '\\' :: 'u' :: (Text.hexDigits 4 low ++ rest) := rfl
  rw [readUnicodeEscape, drop_hexDigits, readHigh, behind]
  simp only [List.isEmpty_cons, Bool.false_eq_true, if_false, first, second, drop_hexDigits,
    readLow, if_true]
  simp [filled]

end Units

/-- A character beyond the basic plane is that of the pair that it is written as. -/
theorem pairChar_of_beyond {c : Char} (beyond : 0xFFFF < c.toNat) :
    Text.isHighSurrogate (0xD800 + (c.toNat - 0x10000) / 1024) = true ∧
      Text.isLowSurrogate (0xDC00 + (c.toNat - 0x10000) % 1024) = true ∧
      Text.pairChar (0xD800 + (c.toNat - 0x10000) / 1024) (0xDC00 + (c.toNat - 0x10000) % 1024) =
        c := by
  have valid : c.toNat < 0xD800 ∨ 0xDFFF < c.toNat ∧ c.toNat < 0x110000 := c.valid
  simp only [Text.isHighSurrogate, Text.isLowSurrogate, Bool.and_eq_true, decide_eq_true_eq]
  refine ⟨by omega, by omega, ?_⟩
  have same : 0x10000 + (0xD800 + (c.toNat - 0x10000) / 1024 - 0xD800) * 1024 +
      (0xDC00 + (c.toNat - 0x10000) % 1024 - 0xDC00) = c.toNat := by omega
  rw [Text.pairChar, same, Char.ofNat_toNat]

/-- The escape of a unit is printable. -/
theorem printable_unitEscape (unit : Nat) : ∀ shown ∈ Text.unitEscape unit, IsPrintable shown := by
  have digit (value : Nat) : IsPrintable (Text.hexDigit (value % 16)) := by
    have all : ∀ value < 16, IsPrintable (Text.hexDigit value) := by
      simp only [isPrintable_iff]
      decide
    exact all _ (Nat.mod_lt value (by decide))
  have mark : IsPrintable '\\' ∧ IsPrintable 'u' := by
    simp [isPrintable_iff]
  simp [Text.unitEscape, hexDigits_four, digit, mark]

/-- A character is written as an escape of one letter, as itself, or as one or two units. -/
inductive WritesChar (reserve : Text.Reserve) (c : Char) : List Char → Prop where
  | letter {letter : Char} (stands : shortEscape? letter = some c)
      (printable : IsPrintable letter) (basic : c.toNat ≤ 0xFFFF) :
      WritesChar reserve c ['\\', letter]
  | plain (noQuote : c ≠ '"') (noEscape : c ≠ '\\') (printable : IsPrintable c) :
      WritesChar reserve c [c]
  | unit (basic : c.toNat ≤ 0xFFFF) : WritesChar reserve c (Text.unitEscape c.toNat)
  | half {unit : Nat} (stands : reserve.half? c = some unit) :
      WritesChar reserve c (Text.unitEscape unit)
  | pair (beyond : 0xFFFF < c.toNat) (whole : reserve.half? c = none) :
      WritesChar reserve c (Text.unitEscape (0xD800 + (c.toNat - 0x10000) / 1024) ++
        Text.unitEscape (0xDC00 + (c.toNat - 0x10000) % 1024))

/-- Every character is written in one of these ways. -/
theorem writesChar_writeChar (reserve : Text.Reserve) (c : Char) :
    WritesChar reserve c (writeChar reserve c) := by
  have named {code : Nat} (same : c.toNat = code) : Char.ofNat code = c := by
    rw [← same, Char.ofNat_toNat]
  unfold writeChar
  -- Seven characters have escapes of their own, before it is asked whether others are printable.
  split
  · subst c
    exact .letter (by decide) (by simp [isPrintable_iff]) (by decide)
  split
  · subst c
    exact .letter (by decide) (by simp [isPrintable_iff]) (by decide)
  split
  · subst c
    exact .letter (by decide) (by simp [isPrintable_iff]) (by decide)
  split
  · subst c
    exact .letter (by decide) (by simp [isPrintable_iff]) (by decide)
  split
  · subst c
    exact .letter (by decide) (by simp [isPrintable_iff]) (by decide)
  split
  · rename_i backspace
    rw [← named backspace]
    exact .letter (by decide) (by simp [isPrintable_iff]) (by decide)
  split
  · rename_i formFeed
    rw [← named formFeed]
    exact .letter (by decide) (by simp [isPrintable_iff]) (by decide)
  split
  · rename_i noQuote noEscape _ _ _ _ _ visible
    exact .plain noQuote noEscape visible
  split
  · rename_i basic
    exact .unit basic
  split
  · rename_i stands
    exact .half stands
  · rename_i beyond _ whole
    exact .pair (Nat.not_le.mp beyond) whole

section Written

variable {reserve : Text.Reserve} {c : Char} {chars : List Char}

/-- A character is written in printable ones. -/
theorem WritesChar.printable (written : WritesChar reserve c chars) :
    ∀ shown ∈ chars, IsPrintable shown := by
  cases written with
  | letter stands printable => simpa using ⟨by simp [isPrintable_iff], printable⟩
  | plain noQuote noEscape printable => simpa using printable
  | unit basic => exact printable_unitEscape _
  | half stands => exact printable_unitEscape _
  | pair beyond =>
    intro shown inside
    rcases List.mem_append.mp inside with first | second
    · exact printable_unitEscape _ shown first
    · exact printable_unitEscape _ shown second

/-- A character is written as something. -/
theorem WritesChar.ne_nil (written : WritesChar reserve c chars) : chars ≠ [] := by
  cases written <;> simp [Text.unitEscape]

/-- A character that stands for a half is written as this half. -/
theorem WritesChar.eq_of_half? (written : WritesChar reserve c chars) {unit : Nat}
    (stands : reserve.half? c = some unit) : chars = Text.unitEscape unit := by
  have beyond : ¬ c.toNat ≤ 0xFFFF := by
    intro basic
    simp [Text.Reserve.half?_of_basic basic] at stands
  cases written with
  | letter _ _ basic => exact absurd basic beyond
  | plain _ _ printable =>
    have small := (isPrintable_iff.mp printable).2
    omega
  | unit basic => exact absurd basic beyond
  | half standsToo => rw [Option.some.inj (stands.symm.trans standsToo)]
  | pair _ whole => cases whole.symm.trans stands

/-- An escaped unit in front of a written character starts with a half only if that is meant. -/
theorem WritesChar.startsWith (written : WritesChar reserve c chars) {more rest : List Char}
    (starts : chars ++ rest = '\\' :: 'u' :: more) : ∃ next, unit? more = some next ∧
      (Text.isLowSurrogate next = true → reserve.half? c = some next) := by
  cases written with
  | @letter letter stands =>
    obtain ⟨-, rfl, -⟩ : '\\' = '\\' ∧ letter = 'u' ∧ rest = more := by simpa using starts
    cases stands
  | plain _ noEscape => exact absurd (List.cons_eq_cons.mp starts).1 noEscape
  | unit basic =>
    obtain rfl : Text.hexDigits 4 c.toNat ++ rest = more := by simpa [Text.unitEscape] using starts
    refine ⟨c.toNat, unit?_hexDigits (by omega) rest, fun low => ?_⟩
    exact absurd (Text.isHalf_iff.mpr (Or.inr low)) (Text.not_isHalf c)
  | @half unit stands =>
    obtain rfl : Text.hexDigits 4 unit ++ rest = more := by simpa [Text.unitEscape] using starts
    have half := Text.Reserve.isHalf_of_half? stands
    simp only [Text.IsHalf] at half
    exact ⟨unit, unit?_hexDigits (by omega) rest, fun _ => stands⟩
  | pair beyond whole =>
    obtain ⟨isHigh, -, -⟩ := pairChar_of_beyond beyond
    generalize 0xD800 + (c.toNat - 0x10000) / 1024 = high at starts isHigh
    generalize Text.unitEscape (0xDC00 + (c.toNat - 0x10000) % 1024) = second at starts
    obtain rfl : Text.hexDigits 4 high ++ (second ++ rest) = more := by
      simpa [Text.unitEscape] using starts
    have half := Text.isHalf_iff.mpr (Or.inl isHigh)
    simp only [Text.IsHalf] at half
    refine ⟨high, unit?_hexDigits (by omega) _, fun low => ?_⟩
    simp [Text.not_high_of_low low] at isHigh

end Written

/-- What is read of a string behind a character, with the character in front. -/
def consRead (c : Char) : Step (List Char) → Step (List Char)
  -- A fault stays the same.
  | .ok (chars, rest) => .ok (c :: chars, rest)
  | .error stop => .error stop

section Reading

variable {reserve : Text.Reserve} {fuel : Nat} {opening rest : List Char} {c : Char}

/-- A character that needs no escape is read as it is. -/
theorem readChars_plain (noQuote : c ≠ '"') (noEscape : c ≠ '\\') (visible : 0x20 ≤ c.toNat) :
    readChars reserve (fuel + 1) opening (c :: rest) =
      consRead c (readChars reserve fuel opening rest) := by
  rw [readChars.eq_def]
  simp only [if_neg noQuote, if_neg noEscape, if_neg (Nat.not_lt.mpr visible)]
  rfl

/-- An escape of one letter is read as what the letter stands for. -/
theorem readChars_short {letter : Char} (stands : shortEscape? letter = some c) :
    readChars reserve (fuel + 1) opening ('\\' :: letter :: rest) =
      consRead c (readChars reserve fuel opening rest) := by
  have different : letter ≠ 'u' := by
    rintro rfl
    cases stands
  rw [readChars]
  · simp only [stands]
    rfl
  · exact different

/-- An escape of units is read as the character that they stand for. -/
theorem readChars_units {digits : List Char}
    (read : readUnicodeEscape reserve ('u' :: digits) digits = .ok (c, rest)) :
    readChars reserve (fuel + 1) opening ('\\' :: 'u' :: digits) =
      consRead c (readChars reserve fuel opening rest) := by
  rw [readChars]
  simp only [read]
  rfl

/-- A written character that joins with nothing is read back, in front of what is read behind it. -/
theorem WritesChar.readChars_eq {chars : List Char} (written : WritesChar reserve c chars)
    (filled : rest ≠ []) (alone : ∀ unit, reserve.half? c = some unit → StandsAlone unit rest) :
    readChars reserve (fuel + 1) opening (chars ++ rest) =
      consRead c (readChars reserve fuel opening rest) := by
  cases written with
  | letter stands => exact readChars_short stands
  | plain noQuote noEscape printable => exact readChars_plain noQuote noEscape printable.1
  | unit basic =>
    have whole : StandsAlone c.toNat rest := fun high =>
      absurd (Text.isHalf_iff.mpr (Or.inl high)) (Text.not_isHalf c)
    refine readChars_units ((readUnicodeEscape_unit (by omega) filled whole).trans ?_)
    rw [Text.Reserve.unitChar_toNat]
  | @half unit stands =>
    obtain ⟨half, same⟩ := Text.Reserve.half?_eq_some_iff.mp stands
    have small := half.2
    refine readChars_units ((readUnicodeEscape_unit (by omega) filled (alone unit stands)).trans ?_)
    rw [Text.Reserve.unitChar_of_isHalf half, ← same]
  | pair beyond =>
    obtain ⟨isHigh, isLow, whole⟩ := pairChar_of_beyond beyond
    rw [List.append_assoc]
    refine readChars_units ((readUnicodeEscape_pair isHigh isLow filled).trans ?_)
    rw [whole]

/-- Nothing that is escaped stands behind a closing mark. -/
theorem standsAlone_mark (unit : Nat) : StandsAlone unit ('"' :: rest) := by
  intro _ more same
  cases (List.cons_eq_cons.mp same).1

/-- A half stands alone where it does not join with the character that is written behind it. -/
theorem standsAlone_written {d : Char} {unit : Nat} (apart : reserve.pair? c d = none)
    (stands : reserve.half? c = some unit) : StandsAlone unit (writeChar reserve d ++ rest) := by
  intro high more same
  obtain ⟨next, read, meant⟩ := (writesChar_writeChar reserve d).startsWith same
  refine ⟨next, read, Bool.eq_false_iff.mpr fun low => ?_⟩
  have joins : reserve.pair? c d = some (Text.pairChar unit next) :=
    Text.Reserve.pair?_eq_some_iff.mpr ⟨unit, next, stands, meant low, high, low, rfl⟩
  cases apart.symm.trans joins

/-- A written text is read back joined up to its closing mark, with fuel for its characters. -/
theorem readChars_flatMap_writeChar (chars : List Char)
    (enough : (chars.flatMap (writeChar reserve)).length < fuel) :
    readChars reserve fuel opening (chars.flatMap (writeChar reserve) ++ '"' :: rest) =
      .ok (reserve.joined chars, rest) := by
  have taken (c : Char) : 0 < (writeChar reserve c).length :=
    List.length_pos_iff.mpr (writesChar_writeChar reserve c).ne_nil
  induction chars using Text.Reserve.joined.induct reserve generalizing fuel with
  | case1 =>
    obtain ⟨fuel, rfl⟩ := Nat.exists_eq_add_one_of_ne_zero (Nat.ne_of_gt enough)
    rfl
  | case2 c =>
    have here := taken c
    rw [List.flatMap_singleton] at enough ⊢
    obtain ⟨fuel, rfl⟩ := Nat.exists_eq_add_of_le' (by omega : 2 ≤ fuel)
    rw [(writesChar_writeChar reserve c).readChars_eq (by simp) fun unit _ => standsAlone_mark unit]
    rfl
  | case3 c d later whole found ih =>
    obtain ⟨high, low, first, second, isHigh, isLow, same⟩ :=
      Text.Reserve.pair?_eq_some_iff.mp found
    have here := taken c
    rw [List.flatMap_cons, List.flatMap_cons, List.length_append, List.length_append] at enough
    obtain ⟨fuel, rfl⟩ := Nat.exists_eq_add_one_of_ne_zero (Nat.ne_of_gt (Nat.zero_lt_of_lt enough))
    rw [List.flatMap_cons, List.flatMap_cons, (writesChar_writeChar reserve c).eq_of_half? first,
      (writesChar_writeChar reserve d).eq_of_half? second, List.append_assoc, List.append_assoc,
      Text.Reserve.joined, found, same]
    exact (readChars_units (readUnicodeEscape_pair isHigh isLow (by simp))).trans
      (congrArg (consRead _) (ih (by omega)))
  | case4 c d later apart ih =>
    have here := taken c
    rw [List.flatMap_cons, List.length_append] at enough
    obtain ⟨fuel, rfl⟩ := Nat.exists_eq_add_one_of_ne_zero (Nat.ne_of_gt (Nat.zero_lt_of_lt enough))
    have alone : ∀ unit, reserve.half? c = some unit →
        StandsAlone unit ((d :: later).flatMap (writeChar reserve) ++ '"' :: rest) := by
      intro unit stands
      rw [List.flatMap_cons, List.append_assoc]
      exact standsAlone_written apart stands
    rw [List.flatMap_cons, List.append_assoc,
      (writesChar_writeChar reserve c).readChars_eq (by simp) alone, ih (by omega),
      Text.Reserve.joined, apart]
    rfl

/-- A written string is read back joined, whatever stands behind it. -/
theorem readString_writeString (text : String)
    (enough : (writeString reserve text).length ≤ fuel + 1) :
    readString reserve fuel (writeString reserve text ++ rest) =
      .ok (reserve.joinedText text, rest) := by
  have inner : (text.toList.flatMap (writeChar reserve)).length < fuel := by
    simp only [writeString, List.length_cons, List.length_append, List.length_nil] at enough
    omega
  have split : writeString reserve text ++ rest =
      '"' :: (text.toList.flatMap (writeChar reserve) ++ '"' :: rest) := by
    simp [writeString]
  rw [readString, split, List.drop_one, List.tail_cons, readChars_flatMap_writeChar _ inner]
  rfl

end Reading

/-- A string is written in printable characters, quotation marks included. -/
theorem printable_writeString (reserve : Text.Reserve) (text : String) :
    ∀ c ∈ writeString reserve text, IsPrintable c := by
  have mark : IsPrintable '"' := by simp [isPrintable_iff]
  intro c inside
  simp only [writeString, List.mem_append, List.mem_cons, List.mem_flatMap, List.not_mem_nil,
    or_false] at inside
  rcases inside with (rfl | ⟨other, -, shown⟩) | rfl
  · exact mark
  · exact (writesChar_writeChar reserve other).printable c shown
  · exact mark

end AccessPolicy.Json
