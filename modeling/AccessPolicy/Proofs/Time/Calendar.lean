import AccessPolicy.Time.Calendar

/-!
The calendar, one day after the other.

A date is followed by the next day of its month, by the first day of the next month or by the first
day of the next year. The main statement is that counting the days of years and months gives the
number of such steps from the first day of the calendar, for every date up to the year 9999.
-/

namespace AccessPolicy.Time

namespace Date

/-- The length of the month of a date. -/
def monthLength (date : Date) : Nat :=
  -- Months are counted from one.
  (monthLengths date.year).getD (date.month - 1) 0

/-- The date one day later. -/
def next (date : Date) : Date :=
  -- The last day of December is followed by the first day of January.
  if date.day < date.monthLength then ⟨date.year, date.month, date.day + 1⟩
  else if date.month < 12 then ⟨date.year, date.month + 1, 1⟩
  else ⟨date.year + 1, 1, 1⟩

/-- The date so many days after the first of January of the year one. -/
def after : Nat → Date
  -- Each day has one day after it.
  | 0 => ⟨1, 1, 1⟩
  | days + 1 => (after days).next

/-- A date that exists, in a year of whatever number. -/
structure Exists (date : Date) : Prop where
  year : 1 ≤ date.year
  month : 1 ≤ date.month ∧ date.month ≤ 12
  day : 1 ≤ date.day ∧ date.day ≤ date.monthLength

/-- The days of a year before the first day of a month. -/
def daysBeforeMonth (year month : Nat) : Nat :=
  -- The months before it have passed.
  ((monthLengths year).take (month - 1)).foldr (· + ·) 0

/-- The days before a date. -/
def number (date : Date) : Nat :=
  -- The date itself has not passed.
  daysBeforeYear date.year + daysBeforeMonth date.year date.month + (date.day - 1)

variable {date other : Date}

/-- A sum over one item more is the sum so far and the item. -/
theorem foldr_take_succ (items : List Nat) (count : Nat) :
    (items.take (count + 1)).foldr (· + ·) 0 =
      (items.take count).foldr (· + ·) 0 + items.getD count 0 := by
  induction items generalizing count with
  | nil => simp
  | cons first later ih =>
    cases count with
    | zero => simp
    | succ count => simp [ih count, Nat.add_assoc]

/-- The days before a month are those before the month before it, and its length. -/
theorem daysBeforeMonth_succ {year month : Nat} (named : 1 ≤ month) :
    daysBeforeMonth year (month + 1) =
      daysBeforeMonth year month + (monthLengths year).getD (month - 1) 0 := by
  have step := foldr_take_succ (monthLengths year) (month - 1)
  rwa [Nat.sub_add_cancel named] at step

/-- A year ends with its twelfth month, after 365 days or, in a leap year, one more. -/
theorem daysBeforeMonth_end (year : Nat) :
    daysBeforeMonth year 13 = 365 + if isLeapYear year then 1 else 0 := by
  cases leap : isLeapYear year <;> simp [daysBeforeMonth, monthLengths, leap]

/-- A quotient grows by one where the next number is a multiple. -/
theorem quotient_succ (divisor number : Nat) :
    (number + 1) / divisor = number / divisor + if (number + 1) % divisor = 0 then 1 else 0 := by
  rw [Nat.succ_div]
  simp [Nat.dvd_iff_mod_eq_zero]

/-- A leap year is a fourth year, and no full century unless it is a fourth one. -/
theorem leapDay_eq (year : Nat) :
    (if isLeapYear year then 1 else 0) + (if year % 100 = 0 then 1 else 0) =
      (if year % 4 = 0 then 1 else 0) + if year % 400 = 0 then 1 else 0 := by
  by_cases four : year % 4 = 0
  · by_cases hundred : year % 100 = 0
    · by_cases cycle : year % 400 = 0 <;> simp [isLeapYear, four, hundred, cycle]
    · have part : year % 400 ≠ 0 := by omega
      simp [isLeapYear, four, hundred, part]
  · have hundred : year % 100 ≠ 0 := by omega
    have part : year % 400 ≠ 0 := by omega
    simp [isLeapYear, four, hundred, part]

/-- The next year starts after the days of this one. -/
theorem daysBeforeYear_succ {year : Nat} (named : 1 ≤ year) :
    daysBeforeYear (year + 1) = daysBeforeYear year + daysBeforeMonth year 13 := by
  obtain ⟨past, rfl⟩ : ∃ past, year = past + 1 := ⟨year - 1, by omega⟩
  have leapDay := leapDay_eq (past + 1)
  have once : (if (past + 1) % 100 = 0 then 1 else 0) ≤ 1 := by split <;> omega
  have fewer : past / 100 ≤ past / 4 := Nat.div_le_div_left (by decide) (by decide)
  simp only [daysBeforeYear, daysBeforeMonth_end, Nat.add_sub_cancel, quotient_succ]
  -- Only how the conditions add up counts from here on, not what they are about.
  generalize (if isLeapYear (past + 1) then 1 else 0) = leap at *
  generalize (if (past + 1) % 100 = 0 then 1 else 0) = hundred at *
  generalize (if (past + 1) % 4 = 0 then 1 else 0) = four at *
  generalize (if (past + 1) % 400 = 0 then 1 else 0) = cycle at *
  omega

/-- The length of one of the twelve months is found under its number. -/
theorem monthLengths_getElem? (named : 1 ≤ date.month) (last : date.month ≤ 12) :
    (monthLengths date.year)[date.month - 1]? = some date.monthLength := by
  have inside : date.month - 1 < (monthLengths date.year).length := by
    simp only [monthLengths, List.length_cons, List.length_nil]
    omega
  rw [monthLength, List.getD_eq_getElem?_getD, List.getElem?_eq_getElem inside, Option.getD_some]

/-- Every month has at least one day and at most thirty-one. -/
theorem monthLength_bounds (named : 1 ≤ date.month) (last : date.month ≤ 12) :
    1 ≤ date.monthLength ∧ date.monthLength ≤ 31 := by
  have all : ∀ length ∈ monthLengths date.year, 1 ≤ length ∧ length ≤ 31 := by
    cases leap : isLeapYear date.year <;> simp [monthLengths, leap]
  exact all _ (List.mem_of_getElem? (monthLengths_getElem? named last))

/-- The day after a date that exists exists, and it is one day later. -/
theorem Exists.next (real : date.Exists) :
    date.next.Exists ∧ date.next.number = date.number + 1 := by
  obtain ⟨yearNamed, ⟨monthNamed, monthLast⟩, dayNamed, dayLast⟩ := real
  have lengths : daysBeforeMonth date.year (date.month + 1) =
      daysBeforeMonth date.year date.month + date.monthLength := daysBeforeMonth_succ monthNamed
  rw [Date.next, number]
  split
  · rename_i within
    refine ⟨⟨yearNamed, ⟨monthNamed, monthLast⟩, Nat.le_add_left 1 date.day, within⟩, ?_⟩
    simp only [number]
    omega
  · split
    · rename_i earlier
      have month : 1 ≤ date.month + 1 := Nat.le_add_left 1 date.month
      have filled := (@monthLength_bounds ⟨date.year, date.month + 1, 1⟩ month earlier).1
      refine ⟨⟨yearNamed, ⟨month, earlier⟩, Nat.le_refl 1, filled⟩, ?_⟩
      simp only [number]
      omega
    · have december : date.month = 12 := by omega
      have years := daysBeforeYear_succ yearNamed
      have first : daysBeforeMonth (date.year + 1) 1 = 0 := rfl
      refine ⟨⟨Nat.le_add_left 1 date.year, by simp, Nat.le_refl 1,
        (monthLength_bounds (by simp) (by simp)).1⟩, ?_⟩
      simp only [december, Nat.reduceAdd] at lengths
      simp only [number, december]
      omega

/-- So many days after the first day stands a date that exists and has as many days before it. -/
theorem after_exists (days : Nat) : (after days).Exists ∧ (after days).number = days := by
  induction days with
  | zero => exact ⟨⟨by decide, by decide, by decide⟩, by decide⟩
  | succ days ih =>
    obtain ⟨real, counted⟩ := ih
    obtain ⟨realToo, step⟩ := real.next
    exact ⟨realToo, by rw [after, step, counted]⟩

/-- A date that exists is found under the number of days before it. -/
theorem Exists.dayOfDate? (real : date.Exists) (inRange : date.year ≤ 9999) :
    dayOfDate? date.year date.month date.day = some date.number := by
  have length := monthLengths_getElem? real.month.1 real.month.2
  rw [Time.dayOfDate?, if_pos ⟨real.year, inRange, real.month.1⟩, length]
  exact if_pos real.day

/-- The months before a month take no more days than those before a later one. -/
theorem daysBeforeMonth_mono {year month later : Nat} (named : 1 ≤ month) (ordered : month ≤ later) :
    daysBeforeMonth year month ≤ daysBeforeMonth year later := by
  induction ordered with
  | refl => exact Nat.le_refl _
  | step ordered ih =>
    rw [daysBeforeMonth_succ (Nat.le_trans named ordered)]
    exact Nat.le_add_right_of_le ih

/-- The years before a year take no more days than those before a later one. -/
theorem daysBeforeYear_mono {year later : Nat} (named : 1 ≤ year) (ordered : year ≤ later) :
    daysBeforeYear year ≤ daysBeforeYear later := by
  induction ordered with
  | refl => exact Nat.le_refl _
  | step ordered ih =>
    rw [daysBeforeYear_succ (Nat.le_trans named ordered)]
    exact Nat.le_add_right_of_le ih

/-- A date lies behind the days of the years before it and not behind those of its own year. -/
theorem Exists.number_bounds (real : date.Exists) :
    daysBeforeYear date.year ≤ date.number ∧ date.number < daysBeforeYear (date.year + 1) := by
  obtain ⟨yearNamed, ⟨monthNamed, monthLast⟩, dayNamed, dayLast⟩ := real
  have month : daysBeforeMonth date.year (date.month + 1) =
      daysBeforeMonth date.year date.month + date.monthLength := daysBeforeMonth_succ monthNamed
  have months : daysBeforeMonth date.year (date.month + 1) ≤ daysBeforeMonth date.year 13 :=
    daysBeforeMonth_mono (Nat.le_add_left 1 date.month) (Nat.succ_le_succ monthLast)
  have years := daysBeforeYear_succ yearNamed
  simp only [number]
  omega

/-- A date with no more days before it is in no later year. -/
theorem Exists.year_le (real : date.Exists) (realToo : other.Exists)
    (ordered : date.number ≤ other.number) : date.year ≤ other.year := by
  refine Nat.le_of_not_lt fun later => ?_
  have years := daysBeforeYear_mono (Nat.le_add_left 1 other.year) later
  have behind := real.number_bounds.1
  have before := realToo.number_bounds.2
  omega

/-- Of the dates of a year, one with no more days before it is in no later month. -/
theorem Exists.month_le (real : other.Exists) (year : date.year = other.year)
    (ordered : date.number ≤ other.number) : date.month ≤ other.month := by
  refine Nat.le_of_not_lt fun later => ?_
  have months : daysBeforeMonth other.year (other.month + 1) ≤
      daysBeforeMonth other.year date.month :=
    daysBeforeMonth_mono (Nat.le_add_left 1 other.month) later
  have month : daysBeforeMonth other.year (other.month + 1) =
      daysBeforeMonth other.year other.month + other.monthLength :=
    daysBeforeMonth_succ real.month.1
  have dayLast := real.day
  simp only [number, year] at ordered
  omega

/-- No two dates have the same number of days before them. -/
theorem Exists.eq_of_number_eq (real : date.Exists) (realToo : other.Exists)
    (same : date.number = other.number) : date = other := by
  have year : date.year = other.year :=
    Nat.le_antisymm (real.year_le realToo (Nat.le_of_eq same))
      (realToo.year_le real (Nat.le_of_eq same.symm))
  have month : date.month = other.month :=
    Nat.le_antisymm (realToo.month_le year (Nat.le_of_eq same))
      (real.month_le year.symm (Nat.le_of_eq same.symm))
  have day : date.day = other.day := by
    have first := real.day.1
    have firstToo := realToo.day.1
    simp only [number, year, month] at same
    omega
  cases date
  cases other
  rw [mk.injEq]
  exact ⟨year, month, day⟩

/-- So many days after the first day stands the one date that has as many days before it. -/
theorem after_eq_iff {days : Nat} : after days = date ↔ date.Exists ∧ date.number = days := by
  obtain ⟨real, counted⟩ := after_exists days
  constructor
  · rintro rfl
    exact ⟨real, counted⟩
  · rintro ⟨realToo, same⟩
    exact real.eq_of_number_eq realToo (counted.trans same.symm)

/-- The calendar ends with the year 9999. -/
theorem year_after_le_iff (days : Nat) : (after days).year ≤ 9999 ↔ days < calendarLength := by
  obtain ⟨real, counted⟩ := after_exists days
  obtain ⟨behind, before⟩ := real.number_bounds
  have last : daysBeforeYear 10000 = calendarLength := rfl
  rw [counted] at behind before
  constructor
  · intro inRange
    have years : daysBeforeYear ((after days).year + 1) ≤ daysBeforeYear 10000 :=
      daysBeforeYear_mono (Nat.le_add_left 1 _) (Nat.succ_le_succ inRange)
    omega
  · intro counts
    refine Nat.le_of_not_lt fun late => ?_
    have years := daysBeforeYear_mono (by decide : 1 ≤ 10000) late
    omega

end Date

end AccessPolicy.Time
