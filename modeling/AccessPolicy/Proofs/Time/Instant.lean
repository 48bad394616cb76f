import AccessPolicy.Proofs.Number.Binary64
import AccessPolicy.Proofs.Time.Calendar
import AccessPolicy.Time.Instant

/-!
Instants given in seconds, and what calendar and clock show at them.

Every whole number of seconds within the years one to 9999 is an instant, and double precision
loses nothing of it. The date and the time of day that a clock shows lead back to its seconds.
-/

namespace AccessPolicy.Time

open Number (Binary64)

/-- The date that a calendar shows so many seconds after it showed the start of 1970. -/
def shownDate (seconds : Int) : Date :=
  -- Days before the first one are not on the calendar.
  Date.after (seconds / 86400 + epochDay).toNat

/-- The hours, minutes and seconds that a clock shows so many seconds after the start of 1970. -/
def shownTime (seconds : Int) : List Nat :=
  -- The clock starts again every day.
  let second := (seconds % 86400).toNat
  [second / 3600, second / 60 % 60, second % 60]

/-- A calendar shows one of the years one to 9999 so many seconds after the start of 1970. -/
def InYears (seconds : Int) : Prop :=
  -- The year one starts with the first day of the calendar.
  0 ≤ seconds / 86400 + epochDay ∧ (shownDate seconds).year ≤ 9999

variable {seconds : Int}

/-- These are the first and the last second of the years one to 9999. -/
theorem inYears_iff : InYears seconds ↔ -62135596800 ≤ seconds ∧ seconds ≤ 253402300799 := by
  rw [InYears, shownDate, Date.year_after_le_iff]
  simp only [epochDay, calendarLength]
  omega

namespace Instant

/-- A whole number of seconds has a million times as many microseconds. -/
theorem microsOfSeconds?_whole (negative : Bool) (whole shift : Nat) :
    microsOfSeconds? (.finite negative (whole * 2 ^ shift) (-shift)) =
      some ((if negative then -(whole : Int) else whole) * 1000000) := by
  have unit : 0 < 2 ^ shift := Nat.two_pow_pos shift
  have scaled (divisor : Nat) : Binary64.ofQuotient false 0 divisor =
      .finite false 0 Binary64.leastExponent := rfl
  have fraction (place : Nat) : Binary64.divideEven 0 (2 ^ place) = 0 :=
    Binary64.divideEven_zero (Nat.two_pow_pos place)
  -- While the quotient is in sight, the kernel counts up to the million in its dividend.
  obtain ⟨quotient, same⟩ : ∃ quotient, Binary64.ofQuotient = quotient := ⟨_, rfl⟩
  rw [microsOfSeconds?.eq_def]
  rw [same] at scaled ⊢
  simp only [neg_neg, Int.toNat_natCast, Int.toNat_neg_natCast, Nat.pow_eq, Nat.pow_zero,
    Nat.mul_one, Nat.mul_div_cancel _ unit, Nat.mul_mod_left, Nat.zero_mul, scaled, fraction]
  cases negative <;> simp

/-- The clock of a machine counts the seconds of the calendar. -/
theorem isOnClock_whole (inside : InYears seconds) : isOnClock (seconds * 1000000) = true := by
  obtain ⟨first, last⟩ := inYears_iff.mp inside
  have whole : Int.fdiv (seconds * 1000000) 1000000 = seconds := by
    rw [Int.fdiv_eq_ediv_of_nonneg _ (by decide), Int.mul_ediv_cancel _ (by decide)]
  have word : Int.pow 2 63 = 9223372036854775808 := rfl
  simp only [isOnClock, whole, word, Bool.and_eq_true, decide_eq_true_eq]
  omega

/-- Every whole number of seconds within the calendar is an instant. -/
theorem ofSeconds?_whole (inside : InYears seconds) :
    ofSeconds? (Binary64.ofDecimal ⟨decide (seconds < 0), seconds.natAbs, 0⟩) =
      some ⟨seconds * 1000000, 0⟩ := by
  obtain ⟨first, last⟩ := inYears_iff.mp inside
  have fits : seconds.natAbs < 2 ^ 53 := by omega
  obtain ⟨shift, nearest⟩ := Binary64.ofDecimal_whole (decide (seconds < 0)) fits
  have signed : (if decide (seconds < 0) then -(seconds.natAbs : Int) else seconds.natAbs) =
      seconds := by
    simp only [decide_eq_true_eq]
    split <;> omega
  have micros := microsOfSeconds?_whole (decide (seconds < 0)) seconds.natAbs shift
  rw [signed] at micros
  have counted : 0 ≤ Int.fdiv (seconds * 1000000) microsPerDay + epochDay ∧
      Int.fdiv (seconds * 1000000) microsPerDay + epochDay < calendarLength := by
    rw [Int.fdiv_eq_ediv_of_nonneg _ (by decide)]
    simp only [microsPerDay, epochDay, calendarLength]
    omega
  simp only [ofSeconds?, ofSeconds, nearest, micros, isOnClock_whole inside, Bool.not_true,
    Bool.false_eq_true, if_false, if_pos counted]
  rfl

/-- The instant at which a clock shows what it shows after so many seconds of its own time. -/
theorem ofLocal_shown (inside : InYears seconds) (offset : Int) :
    ofLocal (shownDate seconds).number ((seconds % 86400).toNat * 1000000) offset =
      ⟨seconds * 1000000 - offset, offset⟩ := by
  have counted : ((shownDate seconds).number : Int) = seconds / 86400 + epochDay := by
    rw [shownDate, (Date.after_exists _).2]
    exact Int.toNat_of_nonneg inside.1
  have time : ((seconds % 86400).toNat : Int) = seconds % 86400 :=
    Int.toNat_of_nonneg (Int.emod_nonneg seconds (by decide))
  rw [ofLocal, counted, time]
  simp only [microsPerDay, mk.injEq, and_true]
  omega

end Instant

end AccessPolicy.Time
