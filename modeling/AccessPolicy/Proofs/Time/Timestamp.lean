import AccessPolicy.Proofs.Number.Spelling
import AccessPolicy.Proofs.Text.Blank
import AccessPolicy.Proofs.Time.Calendar
import AccessPolicy.Proofs.Time.Instant
import AccessPolicy.Time.Timestamp

/-!
Time stamps are read as they are written.

A whole number of seconds and a date with clock and zone are the two ways to write an instant. The
main statements are that either is read back, for every second of the calendar and every zone of
whole minutes.
-/

namespace AccessPolicy

namespace Time

open Number (digits digitChar filledDigits padded)
open Number.Decimal (SpellsDigits StopsDigits)
open Text (isBlank)

/-- A date as it is written: year, month and day with hyphens between them. -/
def Date.chars (date : Date) : List Char :=
  -- The year has four digits, the others two.
  padded 4 date.year ++ '-' :: (padded 2 date.month ++ '-' :: padded 2 date.day)

/-- The year of a date takes four digits up to the year 9999, and its month and day take two. -/
theorem Date.Exists.digits {date : Date} (real : date.Exists) (inRange : date.year ≤ 9999) :
    date.year < 10 ^ 4 ∧ date.month < 10 ^ 2 ∧ date.day < 10 ^ 2 := by
  have last := real.month.2
  have length := (Date.monthLength_bounds real.month.1 last).2
  have dayLast := real.day.2
  omega

namespace Timestamp

/-- The parts of a clock as they are written. -/
def clockChars : List Nat → List Char
  -- Colons stand between the parts.
  | [] => []
  | [part] => padded 2 part
  | part :: later => padded 2 part ++ ':' :: clockChars later

/-- Characters are a zone that goes ahead of universal time by so many minutes. -/
inductive SpellsZone : List Char → Int → Prop where
  | universal : SpellsZone ['Z'] 0
  | ahead {minutes : Nat} (partDay : minutes < 1440) :
      SpellsZone ('+' :: clockChars [minutes / 60, minutes % 60]) minutes
  | behind {minutes : Nat} (partDay : minutes < 1440) :
      SpellsZone ('-' :: clockChars [minutes / 60, minutes % 60]) (-minutes)

/-- Zones are less than a day away from universal time, and every such number of minutes has one. -/
theorem exists_spellsZone_iff {minutes : Int} :
    (∃ zone, SpellsZone zone minutes) ↔ -1440 < minutes ∧ minutes < 1440 := by
  constructor
  · rintro ⟨zone, zoned⟩
    cases zoned <;> omega
  · rintro ⟨above, below⟩
    have partDay : minutes.natAbs < 1440 := by omega
    rcases Int.natAbs_eq minutes with forward | backward
    · rw [forward]
      exact ⟨_, .ahead partDay⟩
    · rw [backward]
      exact ⟨_, .behind partDay⟩

section Seconds

variable {chars rest : List Char} {ds : List Nat}

/-- Digits without a sign are a number of seconds if nothing else follows them. -/
theorem readSeconds?_digits (spelled : SpellsDigits chars ds) (filled : ds ≠ [])
    (stops : StopsDigits rest) (pointless : rest.head? ≠ some '.') :
    readSeconds? (chars ++ rest) =
      if rest = [] then some ⟨false, Number.ofDigits ds, 0⟩ else none := by
  have taken := Number.Decimal.takeDigits_append spelled stops
  have unsigned : (chars ++ rest).head? ≠ some '-' := (spelled.unsigned filled).1
  obtain ⟨digit, later, rfl⟩ := List.exists_cons_of_ne_nil filled
  unfold readSeconds?
  split
  rename_i negative number signs
  split at signs
  · rename_i start
    rw [start] at unsigned
    exact absurd rfl unsigned
  · obtain ⟨rfl, rfl⟩ := Prod.mk.inj signs
    rw [taken]
    cases rest with
    | nil => rfl
    | cons c behind =>
      have point : c ≠ '.' := fun same => pointless (congrArg some same)
      rw [if_neg (List.cons_ne_nil c behind)]
      split <;> simp_all

/-- Digits behind a minus sign are a negative number of seconds. -/
theorem readSeconds?_minus (spelled : SpellsDigits chars ds) (filled : ds ≠ []) :
    readSeconds? ('-' :: chars) = some ⟨true, Number.ofDigits ds, 0⟩ := by
  have stops : StopsDigits [] := by simp [StopsDigits]
  have taken := Number.Decimal.takeDigits_append spelled stops
  obtain ⟨digit, later, rfl⟩ := List.exists_cons_of_ne_nil filled
  rw [List.append_nil] at taken
  simp only [readSeconds?, taken]

/-- The numeral of an integer is read as that number of seconds. -/
theorem readSeconds?_intNumeral (seconds : Int) :
    readSeconds? (Number.intNumeral seconds) = some ⟨decide (seconds < 0), seconds.natAbs, 0⟩ := by
  have spelled (number : Nat) : SpellsDigits (Number.natNumeral number) (digits number) :=
    Number.Decimal.spellsDigits_map_digitChar fun _ => Number.lt_ten_of_mem_digits
  have filled := Number.digits_ne_nil
  cases seconds with
  | ofNat number =>
    have read : readSeconds? (Number.natNumeral number ++ []) = _ :=
      readSeconds?_digits (spelled number) (filled number) (by simp [StopsDigits]) (by simp)
    rw [List.append_nil, if_pos rfl, Number.ofDigits_digits] at read
    exact read
  | negSucc less =>
    have negative : decide (Int.negSucc less < 0) = true := decide_eq_true (Int.negSucc_lt_zero less)
    rw [Number.intNumeral, readSeconds?_minus (spelled _) (filled _), Number.ofDigits_digits,
      negative]
    rfl

end Seconds

/-- The byte of a digit. -/
def digitByte (digit : Nat) : UInt8 :=
  -- The ten digits are consecutive.
  UInt8.ofNat (48 + digit)

/-- The bytes of a number that is filled up with zeros. -/
def numeral (width number : Nat) : Bytes :=
  -- They are ASCII digits.
  Text.Utf8.encode (padded width number)

/-- The next byte of a text that has one. -/
@[simp] theorem peek_cons (byte : UInt8) (rest : Bytes) : peek (byte :: rest) = byte := rfl

section Numeral

variable {width number : Nat}

/-- A digit is written as its byte and read from it. -/
theorem digitByte_spec {digit : Nat} (small : digit < 10) :
    Text.Utf8.encodeChar (digitChar digit) = [digitByte digit] ∧
      isDigit (digitByte digit) = true ∧ (digitByte digit).toNat - 48 = digit := by
  have all : ∀ digit < 10, Text.Utf8.encodeChar (digitChar digit) = [digitByte digit] ∧
      isDigit (digitByte digit) = true ∧ (digitByte digit).toNat - 48 = digit := by decide
  exact all digit small

/-- Digits are written with one byte each. -/
theorem encode_digits {ds : List Nat} (small : ∀ digit ∈ ds, digit < 10) :
    Text.Utf8.encode (ds.map digitChar) = ds.map digitByte := by
  induction ds with
  | nil => rfl
  | cons digit ds ih =>
    have first := (digitByte_spec (small digit List.mem_cons_self)).1
    have later := ih fun digit member => small digit (List.mem_cons_of_mem _ member)
    rw [Text.Utf8.encode] at later ⊢
    rw [List.map_cons, List.map_cons, List.flatMap_cons, first, later, List.singleton_append]

/-- A numeral has one byte for each digit. -/
theorem numeral_eq (width number : Nat) :
    numeral width number = (filledDigits width number).map digitByte := by
  rw [numeral, Number.padded_eq, encode_digits fun _ => Number.lt_ten_of_mem_filledDigits]

/-- A numeral has at least one byte. -/
theorem numeral_ne_nil (width number : Nat) : numeral width number ≠ [] := by
  rw [numeral_eq, ne_eq, List.map_eq_nil_iff]
  exact Number.filledDigits_ne_nil width number

/-- Digits are read as the number that they continue. -/
theorem readNumber?_digits {ds : List Nat} (small : ∀ digit ∈ ds, digit < 10) (before : Nat)
    (rest : Bytes) :
    readNumber? ds.length before (ds.map digitByte ++ rest) =
      some (ds.foldl (fun number digit => 10 * number + digit) before, rest) := by
  induction ds generalizing before with
  | nil => rfl
  | cons digit ds ih =>
    obtain ⟨-, isDigit, value⟩ := digitByte_spec (small digit List.mem_cons_self)
    simp only [List.map_cons, List.cons_append, List.length_cons, readNumber?, isDigit, if_true,
      value]
    exact ih (fun digit member => small digit (List.mem_cons_of_mem _ member)) _

/-- A numeral has as many bytes as its width. -/
theorem length_numeral (positive : 0 < width) (fits : number < 10 ^ width) :
    (numeral width number).length = width := by
  rw [numeral_eq, List.length_map, Number.length_filledDigits positive fits]

/-- A number is read back from its numeral. -/
theorem readNumber?_numeral (positive : 0 < width) (fits : number < 10 ^ width) (rest : Bytes) :
    readNumber? width 0 (numeral width number ++ rest) = some (number, rest) := by
  have small : ∀ digit ∈ filledDigits width number, digit < 10 := fun _ =>
    Number.lt_ten_of_mem_filledDigits
  have read := readNumber?_digits small 0 rest
  rwa [Number.length_filledDigits positive fits, ← numeral_eq, ← Number.ofDigits,
    Number.ofDigits_filledDigits] at read

/-- A numeral consists of digits. -/
theorem isDigit_of_mem_numeral {byte : UInt8} (member : byte ∈ numeral width number) :
    isDigit byte = true := by
  rw [numeral_eq] at member
  obtain ⟨digit, inside, rfl⟩ := List.mem_map.mp member
  exact (digitByte_spec (Number.lt_ten_of_mem_filledDigits inside)).2.1

/-- A numeral starts with a digit, and so with neither of the letters of a date. -/
theorem peek_numeral_ne (width number : Nat) (rest : Bytes) :
    peek (numeral width number ++ rest) ≠ 87 := by
  obtain ⟨byte, later, found⟩ := List.exists_cons_of_ne_nil (numeral_ne_nil width number)
  have digit : isDigit byte = true := isDigit_of_mem_numeral (found ▸ List.mem_cons_self)
  rw [found]
  rintro rfl
  cases digit

end Numeral

section Clock

variable {parts : List Nat}

/-- A mark behind a numeral is one byte. -/
theorem encode_marked {mark : Char} (ascii : mark.toNat < 128) (width number : Nat)
    (rest : List Char) :
    Text.Utf8.encode (padded width number ++ mark :: rest) =
      numeral width number ++ UInt8.ofNat mark.toNat :: Text.Utf8.encode rest := by
  have single : Text.Utf8.encodeChar mark = [UInt8.ofNat mark.toNat] := if_pos ascii
  rw [numeral, Text.Utf8.encode, List.flatMap_append, List.flatMap_cons, single,
    List.singleton_append]
  rfl

/-- The bytes of the parts of a clock: those of the first part, and a colon before the others. -/
theorem encode_clockChars (part next : Nat) (later : List Nat) :
    Text.Utf8.encode (clockChars (part :: next :: later)) =
      numeral 2 part ++ 58 :: Text.Utf8.encode (clockChars (next :: later)) :=
  encode_marked (by decide) 2 part (clockChars (next :: later))

/-- A clock takes up at least one byte. -/
theorem length_clock_pos (part : Nat) (later : List Nat) :
    0 < (Text.Utf8.encode (clockChars (part :: later))).length := by
  have first := List.length_pos_of_ne_nil (numeral_ne_nil 2 part)
  cases later with
  | nil => exact first
  | cons next later =>
    rw [encode_clockChars, List.length_append]
    exact Nat.add_pos_left first _

/-- The parts of a clock are read back, however many have been read before them. -/
theorem readParts?_clock (filled : parts ≠ []) (small : ∀ part ∈ parts, part < 100) {room : Nat}
    (fits : parts.length ≤ room) {colons : Option Bool} (marked : colons.getD true = true)
    (numbers : List Nat) :
    readParts? room colons numbers (Text.Utf8.encode (clockChars parts)) =
      some (clockOf (numbers ++ parts) 0 false) := by
  -- Every part but the last one is followed by a colon, which the first part leads to expect.
  induction parts generalizing room colons numbers with
  | nil => exact absurd rfl filled
  | cons part later ih =>
    obtain ⟨room, rfl⟩ : ∃ less, room = less + 1 := ⟨room - 1, by simp at fits; omega⟩
    have first (rest : Bytes) : readNumber? 2 0 (numeral 2 part ++ rest) = some (part, rest) :=
      readNumber?_numeral (by decide) (small part List.mem_cons_self) rest
    cases later with
    | nil =>
      have alone : Text.Utf8.encode (clockChars [part]) = numeral 2 part ++ [] :=
        (List.append_nil _).symm
      rw [alone, readParts?, first]
      simp [peek]
    | cons next later =>
      have smallToo : ∀ part ∈ next :: later, part < 100 := fun part member =>
        small part (List.mem_cons_of_mem _ member)
      have long := length_clock_pos next later
      have more : ¬ (58 :: Text.Utf8.encode (clockChars (next :: later))).length ≤ 1 := by
        rw [List.length_cons]
        omega
      have read : readParts? room (some true) (numbers ++ [part]) _ = _ :=
        ih (List.cons_ne_nil next later) smallToo (Nat.le_of_succ_le_succ fits) rfl _
      rw [List.append_assoc, List.singleton_append] at read
      rw [encode_clockChars, readParts?, first]
      simp only [peek_cons, marked, if_neg more, decide_true, Bool.and_true, if_true, List.tail_cons]
      exact read

/-- A clock of up to three parts is read back. -/
theorem readClock?_clock (filled : parts ≠ []) (small : ∀ part ∈ parts, part < 100)
    (fits : parts.length ≤ 3) :
    readClock? (Text.Utf8.encode (clockChars parts)) = some (clockOf parts 0 false) :=
  readParts?_clock filled small fits rfl []

end Clock

section Zone

variable {zone : List Char} {minutes : Int}

/-- A clock of hours and minutes runs for so many minutes. -/
theorem total_minutes (minutes : Nat) :
    (clockOf [minutes / 60, minutes % 60] 0 false).total = minutes * 60000000 := by
  have split := Nat.div_add_mod' minutes 60
  simp only [Clock.total, clockOf, List.getD_cons_zero, List.getD_cons_succ, List.getD_nil, split]
  omega

/-- A signed clock of less than a day is a zone. -/
theorem readZone?_clock {mark : UInt8} (signed : mark ≠ 90) {minutes : Nat}
    (partDay : minutes < 1440) :
    readZone? (mark :: Text.Utf8.encode (clockChars [minutes / 60, minutes % 60])) =
      some (if mark = 45 then -(minutes * 60000000 : Int) else minutes * 60000000) := by
  have small : ∀ part ∈ [minutes / 60, minutes % 60], part < 100 :=
    List.forall_mem_cons.mpr ⟨by omega, List.forall_mem_singleton.mpr (by omega)⟩
  have read := readClock?_clock (List.cons_ne_nil _ _) small (by simp)
  have short : ¬ microsPerDay ≤ (minutes * 60000000 : Int) := by
    simp only [microsPerDay]
    omega
  have offset : (if (minutes * 60000000 : Int) < 1000000 then 0 else (minutes * 60000000 : Int)) =
      minutes * 60000000 := by
    split <;> omega
  have ended : (clockOf [minutes / 60, minutes % 60] 0 false).trailing = false := rfl
  rw [readZone?, if_neg signed, read]
  simp only [Clock.offset, total_minutes, offset, short, ended, Bool.false_eq_true, or_self,
    if_false]

/-- A zone is read back. -/
theorem SpellsZone.read (zoned : SpellsZone zone minutes) :
    readZone? (Text.Utf8.encode zone) = some (minutes * 60000000) := by
  cases zoned with
  | universal => rfl
  | ahead partDay =>
    have read := readZone?_clock (by decide : (43 : UInt8) ≠ 90) partDay
    rwa [if_neg (by decide)] at read
  | behind partDay =>
    have read := readZone?_clock (by decide : (45 : UInt8) ≠ 90) partDay
    rwa [if_pos rfl, ← neg_mul] at read

/-- A zone starts with a mark of its own. -/
theorem SpellsZone.starts (zoned : SpellsZone zone minutes) :
    ∃ mark rest, Text.Utf8.encode zone = mark :: rest ∧ startsZone mark = true := by
  cases zoned with
  | universal => exact ⟨90, [], rfl, rfl⟩
  | ahead => exact ⟨43, _, rfl, rfl⟩
  | behind => exact ⟨45, _, rfl, rfl⟩

end Zone

section Date

variable {date : Date} {rest : Bytes}

/-- The bytes of a date: numerals with hyphens between them. -/
theorem encode_date (date : Date) :
    Text.Utf8.encode date.chars =
      numeral 4 date.year ++ 45 :: (numeral 2 date.month ++ 45 :: numeral 2 date.day) := by
  rw [Date.chars, encode_marked (by decide), encode_marked (by decide)]
  rfl

/-- A date in front of a text is recognised by its hyphens. -/
theorem dateLength_date (real : date.Exists) (inRange : date.year ≤ 9999) :
    dateLength (Text.Utf8.encode date.chars ++ rest) = 10 := by
  obtain ⟨yearFits, monthFits, -⟩ := real.digits inRange
  have year := length_numeral (by decide) yearFits
  have month := length_numeral (by decide) monthFits
  rw [encode_date]
  simp only [List.append_assoc, List.cons_append]
  generalize behindMonth : 45 :: (numeral 2 date.day ++ rest) = later
  have long : ¬ (numeral 4 date.year ++ 45 :: (numeral 2 date.month ++ later)).length = 7 := by
    simp only [← behindMonth, List.length_append, List.length_cons, year, month]
    omega
  have hyphen : (numeral 4 date.year ++ 45 :: (numeral 2 date.month ++ later)).drop 4 =
      45 :: (numeral 2 date.month ++ later) := List.drop_left' year
  have letter : (numeral 4 date.year ++ 45 :: (numeral 2 date.month ++ later)).drop 5 =
      numeral 2 date.month ++ later := by
    rw [← List.drop_drop (i := 1) (j := 4), hyphen, List.drop_one, List.tail_cons]
  rw [dateLength, if_neg long, hyphen, letter, peek_cons, if_pos rfl,
    if_neg (peek_numeral_ne 2 _ _)]

/-- A date takes up ten bytes. -/
theorem length_date (real : date.Exists) (inRange : date.year ≤ 9999) :
    (Text.Utf8.encode date.chars).length = 10 := by
  obtain ⟨yearFits, monthFits, dayFits⟩ := real.digits inRange
  simp only [encode_date, List.length_append, List.length_cons,
    length_numeral (by decide) yearFits, length_numeral (by decide) monthFits,
    length_numeral (by decide) dayFits]

/-- A date is read back as the number of days before it. -/
theorem readDate?_date (real : date.Exists) (inRange : date.year ≤ 9999) (length : Nat) :
    readDate? length (Text.Utf8.encode date.chars ++ rest) = some date.number := by
  obtain ⟨yearFits, monthFits, dayFits⟩ := real.digits inRange
  have readYear := readNumber?_numeral (by decide) yearFits
  have readMonth := readNumber?_numeral (by decide) monthFits
  have readDay := readNumber?_numeral (by decide) dayFits
  rw [encode_date]
  simp only [List.append_assoc, List.cons_append, readDate?, readYear, peek_cons, decide_true,
    if_true, List.tail_cons, peek_numeral_ne, if_false, readMonthDate?, readMonth, skipHyphen?,
    Bool.not_true, Bool.false_eq_true, readDay]
  exact real.dayOfDate? inRange

end Date

section Iso

variable {date : Date} {hour minute second : Nat} {zone : List Char} {minutes : Int}

/-- A date, a time of day and a zone as they are written. -/
def isoChars (date : Date) (parts : List Nat) (zone : List Char) : List Char :=
  -- A letter separates the date from the time.
  date.chars ++ 'T' :: (clockChars parts ++ zone)

/-- What calendar and clock show so many seconds after the start of 1970, with their zone. -/
def isoText (seconds : Int) (zone : List Char) : String :=
  -- The seconds are those of the zone.
  String.ofList (isoChars (shownDate seconds) (shownTime seconds) zone)

/-- The characters of a filled up number are digits. -/
theorem exists_digit_of_mem_padded {width number : Nat} {c : Char}
    (member : c ∈ padded width number) : ∃ digit < 10, c = digitChar digit := by
  rw [Number.padded_eq] at member
  obtain ⟨digit, inside, rfl⟩ := List.mem_map.mp member
  exact ⟨digit, Number.lt_ten_of_mem_filledDigits inside, rfl⟩

/-- The characters of a clock are digits and colons. -/
theorem exists_digit_of_mem_clockChars {parts : List Nat} {c : Char}
    (member : c ∈ clockChars parts) : c = ':' ∨ ∃ digit < 10, c = digitChar digit := by
  induction parts with
  | nil => cases member
  | cons part later ih =>
    cases later with
    | nil => exact .inr (exists_digit_of_mem_padded member)
    | cons next later =>
      rcases List.mem_append.mp member with first | behind
      · exact .inr (exists_digit_of_mem_padded first)
      · rcases List.mem_cons.mp behind with colon | inside
        · exact .inl colon
        · exact ih inside

/-- No byte of a clock starts a zone. -/
theorem startsZone_eq_false {parts : List Nat} :
    ∀ byte ∈ Text.Utf8.encode (clockChars parts), startsZone byte = false := by
  have digits : ∀ digit < 10, startsZone (digitByte digit) = false := by decide
  intro byte member
  obtain ⟨c, inside, encoded⟩ := List.mem_flatMap.mp member
  rcases exists_digit_of_mem_clockChars inside with rfl | ⟨digit, small, rfl⟩
  · obtain rfl : byte = 58 := List.mem_singleton.mp encoded
    rfl
  · rw [(digitByte_spec small).1, List.mem_singleton] at encoded
    rw [encoded]
    exact digits digit small

/-- A clock in front of a zone is cut off where the zone starts. -/
theorem cut_zone (parts : List Nat) (zoned : SpellsZone zone minutes) :
    ((Text.Utf8.encode (clockChars parts) ++ Text.Utf8.encode zone).takeWhile
        fun byte => !startsZone byte) = Text.Utf8.encode (clockChars parts) ∧
    ((Text.Utf8.encode (clockChars parts) ++ Text.Utf8.encode zone).dropWhile
        fun byte => !startsZone byte) = Text.Utf8.encode zone := by
  have clock : ∀ byte ∈ Text.Utf8.encode (clockChars parts), (!startsZone byte) = true := by
    intro byte member
    rw [startsZone_eq_false byte member, Bool.not_false]
  obtain ⟨mark, rest, split, starts⟩ := zoned.starts
  rw [List.takeWhile_append_of_pos clock, List.dropWhile_append_of_pos clock, split]
  simp [starts]

/-- A date, a time of day and a zone are read back. -/
theorem readIso?_isoChars (real : date.Exists) (inRange : date.year ≤ 9999) (hours : hour < 24)
    (minutely : minute < 60) (secondly : second < 60) (zoned : SpellsZone zone minutes) :
    readIso? (Text.Utf8.encode (isoChars date [hour, minute, second] zone)) =
      some (Instant.ofLocal date.number (((hour * 60 + minute) * 60 + second : Nat) * 1000000)
        (minutes * 60000000)) := by
  have small : ∀ part ∈ [hour, minute, second], part < 100 := by
    simp only [List.mem_cons, List.not_mem_nil, or_false]
    omega
  have clock := readClock?_clock (List.cons_ne_nil _ _) small (by simp)
  have long := length_clock_pos hour [minute, second]
  have timeOfDay : (clockOf [hour, minute, second] 0 false).isTimeOfDay = true := by
    simp [Clock.isTimeOfDay, clockOf, hours, minutely, secondly]
  have total : (clockOf [hour, minute, second] 0 false).total =
      ((hour * 60 + minute) * 60 + second : Nat) * 1000000 := by
    simp [Clock.total, clockOf]
  have width : characterWidth 84 = 1 := rfl
  have bytes : Text.Utf8.encode (isoChars date [hour, minute, second] zone) =
      Text.Utf8.encode date.chars ++
        84 :: (Text.Utf8.encode (clockChars [hour, minute, second]) ++ Text.Utf8.encode zone) := by
    simp only [isoChars, Text.Utf8.encode, List.flatMap_append, List.flatMap_cons]
    rfl
  obtain ⟨takesClock, leavesZone⟩ := cut_zone [hour, minute, second] zoned
  rw [bytes, readIso?]
  -- The clock is a string of bytes from here on, which are cut off from the zone and read.
  generalize Text.Utf8.encode (clockChars [hour, minute, second]) = clockBytes at *
  simp only [dateLength_date real inRange, List.drop_left' (length_date real inRange), peek_cons,
    width, List.drop_one, List.tail_cons, takesClock, leavesZone, readDate?_date real inRange,
    clock, zoned.read, timeOfDay, total, if_true]
  refine if_neg ?_
  simp only [List.length_append, List.length_cons, length_date real inRange]
  omega

/-- The character of a digit is no blank. -/
theorem isBlank_digitChar {digit : Nat} (small : digit < 10) :
    isBlank (digitChar digit) = false := by
  have all : ∀ digit < 10, isBlank (digitChar digit) = false := by decide
  exact all digit small

/-- A filled up number has no blanks. -/
theorem isBlank_padded (width number : Nat) : ∀ c ∈ padded width number, isBlank c = false := by
  intro c member
  obtain ⟨digit, small, rfl⟩ := exists_digit_of_mem_padded member
  exact isBlank_digitChar small

/-- A clock has no blanks. -/
theorem isBlank_clockChars (parts : List Nat) : ∀ c ∈ clockChars parts, isBlank c = false := by
  intro c member
  rcases exists_digit_of_mem_clockChars member with rfl | ⟨digit, small, rfl⟩
  · rfl
  · exact isBlank_digitChar small

/-- A zone has no blanks. -/
theorem SpellsZone.isBlank_eq_false (zoned : SpellsZone zone minutes) :
    ∀ c ∈ zone, isBlank c = false := by
  cases zoned with
  | universal => exact List.forall_mem_singleton.mpr rfl
  | ahead => exact List.forall_mem_cons.mpr ⟨rfl, isBlank_clockChars _⟩
  | behind => exact List.forall_mem_cons.mpr ⟨rfl, isBlank_clockChars _⟩

/-- A date, a time of day and a zone are read back from their text. -/
theorem read?_isoChars (real : date.Exists) (inRange : date.year ≤ 9999) (hours : hour < 24)
    (minutely : minute < 60) (secondly : second < 60) (zoned : SpellsZone zone minutes) :
    read? (String.ofList (isoChars date [hour, minute, second] zone)) =
      some (Instant.ofLocal date.number (((hour * 60 + minute) * 60 + second : Nat) * 1000000)
        (minutes * 60000000)) := by
  have filled : ∀ c ∈ isoChars date [hour, minute, second] zone, isBlank c = false := by
    simp only [isoChars, Date.chars, List.forall_mem_append, List.forall_mem_cons]
    exact ⟨⟨isBlank_padded _ _, rfl, isBlank_padded _ _, rfl, isBlank_padded _ _⟩, rfl,
      isBlank_clockChars _, zoned.isBlank_eq_false⟩
  -- The hyphen behind the year tells the date from a number of seconds.
  have noSeconds : readSeconds? (isoChars date [hour, minute, second] zone) = none := by
    have spelled : SpellsDigits (padded 4 date.year) (filledDigits 4 date.year) :=
      Number.padded_eq 4 _ ▸ Number.Decimal.spellsDigits_map_digitChar fun _ =>
        Number.lt_ten_of_mem_filledDigits
    have stops (rest : List Char) : StopsDigits ('-' :: rest) := by simp [StopsDigits]; decide
    rw [isoChars, Date.chars, List.append_assoc, List.cons_append,
      readSeconds?_digits spelled (Number.filledDigits_ne_nil 4 _) (stops _) (by simp),
      if_neg (List.cons_ne_nil _ _)]
  simp only [read?, String.toList_ofList, Text.trim_eq_self filled, noSeconds]
  exact readIso?_isoChars real inRange hours minutely secondly zoned

/-- What calendar and clock show is read back as the instant at which they show it. -/
theorem read?_isoText {seconds : Int} (inside : InYears seconds) (zoned : SpellsZone zone minutes) :
    read? (isoText seconds zone) =
      some ⟨seconds * 1000000 - minutes * 60000000, minutes * 60000000⟩ := by
  have real : (shownDate seconds).Exists := (Date.after_exists _).1
  generalize time : (seconds % 86400).toNat = second
  have partDay : second < 86400 := by omega
  have whole : (second / 3600 * 60 + second / 60 % 60) * 60 + second % 60 = second := by omega
  rw [isoText, shownTime, time, read?_isoChars real inside.2 (by omega) (Nat.mod_lt _ (by decide))
    (Nat.mod_lt _ (by decide)) zoned, whole, ← time, Instant.ofLocal_shown inside]

/-- A second of the calendar is read back from its numeral. -/
theorem read?_intText {seconds : Int} (inside : InYears seconds) :
    read? (Number.intText seconds) = some ⟨seconds * 1000000, 0⟩ := by
  have digits (number : Nat) : ∀ c ∈ Number.natNumeral number, isBlank c = false := by
    intro c member
    obtain ⟨digit, inside, rfl⟩ := List.mem_map.mp member
    exact isBlank_digitChar (Number.lt_ten_of_mem_digits inside)
  have filled : ∀ c ∈ Number.intNumeral seconds, isBlank c = false := by
    cases seconds with
    | ofNat number => exact digits number
    | negSucc less => exact List.forall_mem_cons.mpr ⟨rfl, digits (less + 1)⟩
  simp only [read?, Number.intText, String.toList_ofList, Text.trim_eq_self filled,
    readSeconds?_intNumeral]
  exact Instant.ofSeconds?_whole inside

end Iso

end Timestamp

end Time

end AccessPolicy
