import AccessPolicy.Proofs.Condition.Ordered
import AccessPolicy.Proofs.Time.Timestamp

/-!
Instants written as seconds and as dates.

The numeral of a number of seconds and the date and time that a clock of any zone shows then are
two forms of one instant, which no operator on dates tells apart.
-/

namespace AccessPolicy.Condition

open Time (InYears)
open Time.Timestamp (SpellsZone StandsFor isoText)

variable {seconds minutes : Int} {zone : List Char}

/-- The numeral of a second of the calendar stands for it. -/
theorem standsFor_intText (inside : InYears seconds) :
    StandsFor (Number.intText seconds) (seconds * 1000000) :=
  ⟨_, Time.Timestamp.read?_intText inside, rfl⟩

/-- What a clock shows stands for the second at which the clock shows it. -/
theorem standsFor_isoText (shown : InYears (seconds + 60 * minutes))
    (zoned : SpellsZone zone minutes) :
    StandsFor (isoText (seconds + 60 * minutes) zone) (seconds * 1000000) := by
  refine ⟨_, Time.Timestamp.read?_isoText shown zoned, ?_⟩
  show (seconds + 60 * minutes) * 1000000 - minutes * 60000000 = seconds * 1000000
  ring

/--
Seconds since the start of 1970 and the date and time of any zone are two forms of one instant.

Both forms of every second of the years one to 9999 are read, and as the same instant, wherever the
clock of the zone still shows one of these years. No operator on dates tells the two texts apart,
be it as the value that is tested or among the values that are expected.
-/
theorem date_forms_alike (first : -62135596800 ≤ seconds) (last : seconds ≤ 253402300799)
    (behind : -1440 < minutes) (ahead : minutes < 1440) (shown : InYears (seconds + 60 * minutes)) :
    StandsFor (Number.intText seconds) (seconds * 1000000) ∧
    (∃ zone, SpellsZone zone minutes) ∧
    ∀ zone, SpellsZone zone minutes →
      StandsFor (isoText (seconds + 60 * minutes) zone) (seconds * 1000000) ∧
      ∀ operator : Operator, operator.family = .date →
        (∀ expected, operator.compare (Number.intText seconds) expected =
          operator.compare (isoText (seconds + 60 * minutes) zone) expected) ∧
        ∀ (value : String) (before behind : List String),
          operator.compare value (before ++ Number.intText seconds :: behind) =
            operator.compare value (before ++ isoText (seconds + 60 * minutes) zone :: behind) := by
  have counted := standsFor_intText (Time.inYears_iff.mpr ⟨first, last⟩)
  refine ⟨counted, Time.Timestamp.exists_spellsZone_iff.mpr ⟨behind, ahead⟩, fun zone zoned => ?_⟩
  have dated := standsFor_isoText shown zoned
  refine ⟨dated, fun operator ranked => ⟨?_, ?_⟩⟩
  · exact Scale.measures_dates.compare_congr ranked counted dated
  · exact Scale.measures_dates.compare_congr_expected ranked counted dated

/-- A leap day of the year four, shown where universal time has come to the first of March. -/
theorem date_forms_alike_leapDay :
    (-62135596800 ≤ (-62035718461 : Int) ∧ (-62035718461 : Int) ≤ 253402300799) ∧
    InYears (-62035718461 + 60 * (-1439)) ∧ SpellsZone "-23:59".toList (-1439) ∧
    StandsFor "-62035718461" (-62035718461000000) ∧
    StandsFor "0004-02-29T23:59:59-23:59" (-62035718461000000) ∧
    Operator.compare .dateNotEquals "-62035718461" ["0004-03-01T23:58:59Z"] =
      Operator.compare .dateNotEquals "0004-02-29T23:59:59-23:59" ["0004-03-01T23:58:59Z"] := by
  have bounds : -62135596800 ≤ (-62035718461 : Int) ∧ (-62035718461 : Int) ≤ 253402300799 := by
    decide
  have shown : InYears (-62035718461 + 60 * (-1439)) := Time.inYears_iff.mpr (by decide)
  have zoned : SpellsZone "-23:59".toList (-1439) := SpellsZone.behind (by decide : 1439 < 1440)
  have counts : Number.intText (-62035718461) = "-62035718461" := by decide +kernel
  have leapDay : Time.shownDate (-62035718461 + 60 * (-1439)) = ⟨4, 2, 29⟩ :=
    Time.Date.after_eq_iff.mpr ⟨⟨by decide, by decide, by decide⟩, by decide⟩
  have shows : isoText (-62035718461 + 60 * (-1439)) "-23:59".toList =
      "0004-02-29T23:59:59-23:59" := by
    rw [isoText, leapDay]
    decide +kernel
  obtain ⟨counted, -, forms⟩ :=
    date_forms_alike bounds.1 bounds.2 (by decide : -1440 < -1439) (by decide) shown
  obtain ⟨dated, alike⟩ := forms _ zoned
  have same := (alike .dateNotEquals rfl).1 ["0004-03-01T23:58:59Z"]
  rw [counts] at counted same
  rw [shows] at dated same
  exact ⟨bounds, shown, zoned, counted, dated, same⟩

end AccessPolicy.Condition
