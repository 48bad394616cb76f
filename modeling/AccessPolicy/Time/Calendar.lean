/-! The Gregorian calendar, counted in days from the first of January of the year one. -/

namespace AccessPolicy.Time

/-- Whether a year has a twenty-ninth of February. -/
def isLeapYear (year : Nat) : Bool :=
  -- Of the full centuries only every fourth one is a leap year.
  year % 4 = 0 && (year % 100 ≠ 0 || year % 400 = 0)

/-- The lengths of the months of a year. -/
def monthLengths (year : Nat) : List Nat :=
  -- Only February changes.
  [31, if isLeapYear year then 29 else 28, 31, 30, 31, 30, 31, 31, 30, 31, 30, 31]

/-- The days before the first of January of a year. -/
def daysBeforeYear (year : Nat) : Nat :=
  -- Every year before it has 365 days and every leap year one more.
  let past := year - 1
  past * 365 + past / 4 - past / 100 + past / 400

/-- The number of days from the first day of the year one to a date that exists. -/
def dayOfDate? (year month day : Nat) : Option Nat :=
  -- Years run from one to 9999 and days to the length of their month.
  if 1 ≤ year ∧ year ≤ 9999 ∧ 1 ≤ month then
    match (monthLengths year)[month - 1]? with
    | none => none
    | some length =>
      if 1 ≤ day ∧ day ≤ length then
        let before := ((monthLengths year).take (month - 1)).foldr (· + ·) 0
        some (daysBeforeYear year + before + (day - 1))
      else none
  else none

/-- The number of days in the years one to 9999. -/
def calendarLength : Nat := 3652059

/-- The days before the Monday of the first week of a year, the week with its first Thursday. -/
def firstWeekMonday (year : Nat) : Int :=
  -- The first day of the calendar is a Monday, so the remainder by seven counts from Monday.
  let newYear := daysBeforeYear year
  if newYear % 7 ≤ 3 then (newYear : Int) - newYear % 7 else (newYear : Int) - newYear % 7 + 7

/-- Whether a year has fifty-three weeks. -/
def hasLongWeekYear (year : Nat) : Bool :=
  -- It does when it starts on a Thursday, or on a Wednesday and with a leap day.
  let weekday := daysBeforeYear year % 7
  weekday = 3 || (weekday = 2 && isLeapYear year)

/-- The number of days to a date that is given by week and weekday. -/
def dayOfWeekDate? (year week weekday : Nat) : Option Nat :=
  -- The first days of a week-based year may belong to the calendar year before it.
  let weekExists := 1 ≤ week ∧ (week ≤ 52 ∨ (week = 53 ∧ hasLongWeekYear year))
  if 1 ≤ year ∧ year ≤ 9999 ∧ weekExists ∧ 1 ≤ weekday ∧ weekday ≤ 7 then
    let day := firstWeekMonday year + ((week - 1) * 7 + (weekday - 1) : Nat)
    if 0 ≤ day ∧ day < calendarLength then some day.toNat else none
  else none

/-- A date of the calendar. -/
structure Date where
  year : Nat
  month : Nat
  day : Nat
  deriving Repr, DecidableEq

/-- The month and day that a number of days falls into, counted from a month's first day. -/
def monthOfDay : List Nat → Nat → Nat → Nat × Nat
  -- Each month that has passed takes its length away.
  | [], month, days => (month, days + 1)
  | length :: later, month, days =>
    if days < length then (month, days + 1) else monthOfDay later (month + 1) (days - length)

/-- The date a number of days behind the first day of the year one. -/
def dateOfDay (days : Nat) : Date :=
  -- The last day of a cycle of four or of four hundred years would start a period too many.
  let inCycle := days % 146097
  let centuries := min 3 (inCycle / 36524)
  let inCentury := inCycle - centuries * 36524
  let inLeapCycle := inCentury % 1461
  let years := min 3 (inLeapCycle / 365)
  let year := 400 * (days / 146097) + 100 * centuries + 4 * (inCentury / 1461) + years + 1
  let (month, day) := monthOfDay (monthLengths year) 1 (inLeapCycle - years * 365)
  ⟨year, month, day⟩

/-- The days of four hundred years. -/
def cycleLength : Int := 146097

/-- The year of a day before or behind the first day of the year one. -/
def yearOfDay (day : Int) : Int :=
  -- All cycles of four hundred years are alike.
  Int.fdiv day cycleLength * 400 + (dateOfDay (Int.fmod day cycleLength).toNat).year

end AccessPolicy.Time
