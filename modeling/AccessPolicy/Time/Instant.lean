import AccessPolicy.Number.Binary64
import AccessPolicy.Number.Numeral
import AccessPolicy.Time.Calendar

/-! Points in time to the microsecond. -/

namespace AccessPolicy.Time

/-- Microseconds since the start of 1970 in universal time, and the offset of the local clock. -/
structure Instant where
  micros : Int
  offset : Int
  deriving Repr, DecidableEq

/-- The number of days from the first day of the year one to the start of 1970. -/
def epochDay : Nat := 719162

/-- The microseconds of a day. -/
def microsPerDay : Int := 86400000000

namespace Instant

/-- Compares two instants, wherever their clocks stand. -/
def compareTime (a b : Instant) : Ordering :=
  -- The offsets tell how an instant is written, not when it is.
  compare a.micros b.micros

/-- The instant at which a clock with an offset shows a day and a time of that day. -/
def ofLocal (day : Nat) (timeOfDay offset : Int) : Instant :=
  -- A clock ahead of universal time shows a later time than it is.
  ⟨((day : Int) - epochDay) * microsPerDay + timeOfDay - offset, offset⟩

/-- The microseconds in a number of seconds, rounded at the microsecond. -/
def microsOfSeconds? : Number.Binary64 → Option Int
  -- The fraction is scaled as a binary number first, and so is rounded twice.
  | .finite negative significand exponent =>
    let whole := significand * Nat.pow 2 exponent.toNat / Nat.pow 2 (-exponent).toNat
    let rest := significand * Nat.pow 2 exponent.toNat % Nat.pow 2 (-exponent).toNat
    let scaled := Number.Binary64.ofQuotient false (rest * 1000000) (Nat.pow 2 (-exponent).toNat)
    match scaled with
    | .finite _ count place =>
      let fraction := Number.Binary64.divideEven (count * Nat.pow 2 place.toNat)
        (Nat.pow 2 (-place).toNat)
      let micros : Int := whole * 1000000 + fraction
      some (if negative then -micros else micros)
    | _ => none
  | _ => none

/-- Why no instant lies a number of seconds after the start of 1970. -/
inductive RangeFault where
  | notANumber
  | beyondClock
  | beyondYears
  | outsideYear (year : Int)
  deriving Repr, DecidableEq

/-- The wording of a fault. -/
def RangeFault.message : RangeFault → String
  -- Only years that can be counted are named.
  | .notANumber => "Invalid value NaN (not a number)"
  | .beyondClock => "timestamp out of range for platform time_t"
  | .beyondYears => "[Errno 75] Value too large for defined data type"
  | .outsideYear year => "year " ++ Number.intText year ++ " is out of range"

/-- Whether the clock of a machine can count so many seconds. -/
def isOnClock (micros : Int) : Bool :=
  -- The clock counts in words of sixty-four bits, and both powers of two bound the words.
  let seconds := Int.fdiv micros 1000000
  0 ≤ seconds + Int.pow 2 63 && seconds ≤ Int.pow 2 63

/-- Whether the calendar of a machine can count a year. -/
def isCountedYear (year : Int) : Bool :=
  -- Years are counted from 1900 in words of thirty-two bits.
  0 ≤ year - 1900 + Int.pow 2 31 && year - 1900 < Int.pow 2 31

/-- A year as it is named. -/
def namedYear (year : Int) : Int :=
  -- Years are named in words of thirty-two bits, which the last counted years do not fit in.
  Int.bmod year (Nat.pow 2 32)

/-- The instant a number of seconds after the start of 1970. -/
def ofSeconds (seconds : Number.Binary64) : Except RangeFault Instant :=
  -- The calendar ends with the year 9999.
  match microsOfSeconds? seconds with
  | none => .error (if seconds = .notANumber then .notANumber else .beyondClock)
  | some micros =>
    let day := Int.fdiv micros microsPerDay + epochDay
    if !isOnClock micros then .error .beyondClock
    else if 0 ≤ day ∧ day < calendarLength then .ok ⟨micros, 0⟩
    else if isCountedYear (yearOfDay day) then .error (.outsideYear (namedYear (yearOfDay day)))
    else .error .beyondYears

/-- The instant a number of seconds after the start of 1970, if there is one. -/
def ofSeconds? (seconds : Number.Binary64) : Option Instant :=
  -- Why there is none does not matter.
  (ofSeconds seconds).toOption

/-- The instant in universal time to the millisecond, in the extended format of ISO 8601. -/
def millisecondText (instant : Instant) : String :=
  -- Microseconds beyond the millisecond are cut off.
  let date := dateOfDay (Int.fdiv instant.micros microsPerDay + epochDay).toNat
  let millis := (Int.fmod instant.micros microsPerDay).toNat / 1000
  let clock :=
    Number.padded 2 (millis / 3600000) ++ ':' :: Number.padded 2 (millis / 60000 % 60)
      ++ ':' :: Number.padded 2 (millis / 1000 % 60) ++ '.' :: Number.padded 3 (millis % 1000)
  String.ofList (Number.padded 4 date.year ++ '-' :: Number.padded 2 date.month
    ++ '-' :: Number.padded 2 date.day ++ 'T' :: clock ++ "+00:00".toList)

end Instant

end AccessPolicy.Time
