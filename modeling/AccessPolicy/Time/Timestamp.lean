import AccessPolicy.Text.Utf8
import AccessPolicy.Time.Instant

/-! Reading of time stamps: ISO 8601 with a zone, or seconds since the start of 1970. -/

namespace AccessPolicy.Time.Timestamp

/-- The bytes of a text that are still to be read. -/
abbrev Bytes := List UInt8

/-- The next byte, or the zero byte at the end. -/
def peek (bytes : Bytes) : UInt8 :=
  -- A zero byte in the text ends it as well as its real end does.
  bytes.headD 0

/-- Whether a byte is an ASCII digit. -/
def isDigit (byte : UInt8) : Bool :=
  -- Other scripts have no digits of one byte.
  48 ≤ byte && byte ≤ 57

/-- Reads a number of exactly so many digits behind the digits read already. -/
def readNumber? : Nat → Nat → Bytes → Option (Nat × Bytes)
  -- A missing digit refuses the whole number.
  | 0, number, rest => some (number, rest)
  | _ + 1, _, [] => none
  | width + 1, number, byte :: rest =>
    if isDigit byte then readNumber? width (10 * number + (byte.toNat - 48)) rest else none

/-- The text behind a hyphen, which has to be there if the date is written with hyphens. -/
def skipHyphen? (hyphenated : Bool) (bytes : Bytes) : Option Bytes :=
  -- A date has either all of its hyphens or none.
  if !hyphenated then some bytes else if peek bytes = 45 then some bytes.tail else none

/-- How many bytes the date takes up, judged from the places where its letters and hyphens stand. -/
def dateLength (bytes : Bytes) : Nat :=
  -- Any character may separate date and time, so a week date without hyphens counts its digits.
  let digitsEnd := 7 + ((bytes.drop 7).takeWhile isDigit).length
  if bytes.length = 7 then 7
  else if peek (bytes.drop 4) = 45 then
    if peek (bytes.drop 5) = 87 then
      if peek (bytes.drop 8) = 45 then if isDigit (peek (bytes.drop 10)) then 8 else 10 else 8
    else 10
  else if peek (bytes.drop 4) = 87 then
    if digitsEnd < 9 then digitsEnd else if digitsEnd % 2 = 0 then 7 else 8
  else 8

/-- Reads a date by week, whose weekday may be missing where the date ends. -/
def readWeekDate? (year : Nat) (hyphenated atEnd : Bool) (bytes : Bytes) : Option Nat :=
  -- Without a weekday the date is a Monday.
  match readNumber? 2 0 bytes with
  | none => none
  | some (week, rest) =>
    if atEnd then dayOfWeekDate? year week 1
    else match skipHyphen? hyphenated rest with
      | none => none
      | some rest =>
        match readNumber? 1 0 rest with
        | none => none
        | some (weekday, _) => dayOfWeekDate? year week weekday

/-- Reads a date by month, as days from the first day of the calendar. -/
def readMonthDate? (year : Nat) (hyphenated : Bool) (bytes : Bytes) : Option Nat :=
  -- Month and day have two digits each.
  match readNumber? 2 0 bytes with
  | none => none
  | some (month, rest) =>
    match skipHyphen? hyphenated rest with
    | none => none
    | some rest =>
      match readNumber? 2 0 rest with
      | none => none
      | some (day, _) => dayOfDate? year month day

/-- Reads the date that takes up so many bytes. -/
def readDate? (length : Nat) (bytes : Bytes) : Option Nat :=
  -- The letter behind the year tells a week from a month.
  match readNumber? 4 0 bytes with
  | none => none
  | some (year, rest) =>
    let hyphenated := peek rest = 45
    let rest := if hyphenated then rest.tail else rest
    if peek rest = 87 then
      let weekEnd := if hyphenated then 8 else 7
      readWeekDate? year hyphenated (length ≤ weekEnd) rest.tail
    else readMonthDate? year hyphenated rest

/-- A time of day or an offset in its parts, and whether text follows that was not read. -/
structure Clock where
  hour : Nat
  minute : Nat
  second : Nat
  micros : Nat
  trailing : Bool
  deriving Repr

/-- Reads a fraction of a second, of which digits beyond the sixth are skipped. -/
def readFraction? (bytes : Bytes) : Option (Nat × Bool) :=
  -- A shorter fraction has to end with the text.
  let width := min 6 bytes.length
  match readNumber? width 0 bytes with
  | none => none
  | some (number, rest) =>
    some (number * Nat.pow 10 (6 - width), peek (rest.dropWhile isDigit) ≠ 0)

/-- Fills the parts of a clock from the numbers read, hours first. -/
def clockOf (numbers : List Nat) (micros : Nat) (trailing : Bool) : Clock :=
  -- Parts that are not written are zero.
  ⟨numbers.getD 0 0, numbers.getD 1 0, numbers.getD 2 0, micros, trailing⟩

/-- Reads up to so many two-digit parts behind those read already, then a fraction. -/
def readParts? : Nat → Option Bool → List Nat → Bytes → Option Clock
  -- The mark behind the hours decides whether the other parts need colons between them.
  | 0, _, numbers, bytes =>
    (readFraction? bytes).map fun (micros, trailing) => clockOf numbers micros trailing
  | parts + 1, colons, numbers, bytes =>
    match readNumber? 2 0 bytes with
    | none => none
    | some (number, rest) =>
      let numbers := numbers ++ [number]
      let mark := peek rest
      let colons := colons.getD (mark = 58)
      if rest.length ≤ 1 then some (clockOf numbers 0 (mark ≠ 0))
      else if colons && mark = 58 then readParts? parts (some colons) numbers rest.tail
      else if mark = 46 || mark = 44 then
        (readFraction? rest.tail).map fun (micros, trailing) => clockOf numbers micros trailing
      else if colons then none
      else readParts? parts (some colons) numbers rest

/-- Reads a clock of hours, minutes, seconds and a fraction. -/
def readClock? (bytes : Bytes) : Option Clock :=
  -- Only the hours are needed.
  readParts? 3 none [] bytes

/-- The microseconds that a clock has run since midnight. -/
def Clock.total (clock : Clock) : Int :=
  -- The parts may exceed their usual range.
  (((clock.hour * 60 + clock.minute) * 60 + clock.second) * 1000000 + clock.micros : Nat)

/-- Whether a clock shows a time of day. -/
def Clock.isTimeOfDay (clock : Clock) : Bool :=
  -- Leap seconds are not supported.
  clock.hour < 24 && clock.minute < 60 && clock.second < 60

/-- The microseconds by which a local clock goes ahead of universal time. -/
def Clock.offset (clock : Clock) : Int :=
  -- A fraction of a second alone does not set a clock apart from universal time.
  if clock.total < 1000000 then 0 else clock.total

/-- Reads a zone: the letter for universal time, or a signed offset of less than a day. -/
def readZone? : Bytes → Option Int
  -- Nothing may follow the zone.
  | [] => none
  | mark :: rest =>
    if mark = 90 then if peek rest = 0 then some 0 else none
    else match readClock? rest with
      | none => none
      | some clock =>
        if clock.trailing ∨ microsPerDay ≤ clock.total then none
        else some (if mark = 45 then -clock.offset else clock.offset)

/-- Whether a byte starts a zone. -/
def startsZone (byte : UInt8) : Bool :=
  -- These are the plus sign, the minus sign and the letter for universal time.
  byte = 43 || byte = 45 || byte = 90

/-- How many bytes the character takes up that starts with a byte. -/
def characterWidth (first : UInt8) : Nat :=
  -- The first byte announces the bytes that follow it.
  if first < 0x80 then 1
  else if first &&& 0xF0 = 0xE0 then 3
  else if first &&& 0xF0 = 0xF0 then 4
  else 2

/-- Reads a date, one character of any kind, a time of day and a zone. -/
def readIso? (bytes : Bytes) : Option Instant :=
  -- A time without a zone names no instant.
  let length := dateLength bytes
  let behind := bytes.drop length
  if bytes.length < 7 ∨ behind.length ≤ 1 then none
  else
    let time := behind.drop (characterWidth (peek behind))
    match readDate? length bytes, readClock? (time.takeWhile fun byte => !startsZone byte),
        readZone? (time.dropWhile fun byte => !startsZone byte) with
    | some day, some clock, some offset =>
      if clock.isTimeOfDay then some (Instant.ofLocal day clock.total offset) else none
    | _, _, _ => none

/-- Reads decimal seconds without an exponent. -/
def readSeconds? (chars : List Char) : Option Number.Decimal :=
  -- Both sides of a point need digits.
  let (negative, unsigned) := match chars with
    | '-' :: rest => (true, rest)
    | rest => (false, rest)
  match Number.Decimal.takeDigits unsigned with
  | ([], _) => none
  | (whole, []) => some ⟨negative, Number.ofDigits whole, 0⟩
  | (whole, '.' :: rest) =>
    match Number.Decimal.takeDigits rest with
    | ([], _) => none
    | (fraction, []) => some ⟨negative, Number.ofDigits (whole ++ fraction), -fraction.length⟩
    | _ => none
  | _ => none

/-- Reads a time stamp with blanks around it. -/
def read? (text : String) : Option Instant :=
  -- Text of the form of a number is never read as a date.
  let chars := Text.trim text.toList
  match readSeconds? chars with
  | some seconds => Instant.ofSeconds? (Number.Binary64.ofDecimal seconds)
  | none => readIso? (Text.Utf8.encode chars)

end AccessPolicy.Time.Timestamp
