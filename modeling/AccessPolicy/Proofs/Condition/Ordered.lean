import AccessPolicy.Proofs.Condition.Complement
import AccessPolicy.Proofs.Number.Decimal
import AccessPolicy.Proofs.Number.Spelling

/-!
Operators on numbers and dates decide by value.

A text stands for a rational number or for a point in time. The six operators of each of the two
families look at nothing else, so spelling, trailing zeros and offsets of clocks do not count.
-/

namespace AccessPolicy

/-- A text stands for a rational number: it spells it within the range of decimal arithmetic. -/
def Number.Decimal.StandsFor (text : String) (number : ℚ) : Prop :=
  -- Blanks around the number do not count.
  ∃ spelled, Spells (Text.trim text.toList) spelled ∧ spelled.inRange = true ∧
    spelled.value = number

/-- A text stands for the value of the number that is read from it. -/
theorem Number.Decimal.standsFor_iff {text : String} {number : ℚ} :
    StandsFor text number ↔ ∃ found, read? text = some found ∧ found.value = number := by
  simp only [StandsFor, read?_eq_some_iff, and_assoc]

/-- Points in time are compared by their microseconds. -/
theorem Time.Instant.compareTime_compares (a b : Time.Instant) :
    (a.compareTime b).Compares a.micros b.micros :=
  (compare_iff a.micros b.micros).mp rfl

/-- A text stands for a number of microseconds since the start of 1970 in universal time. -/
def Time.Timestamp.StandsFor (text : String) (micros : Int) : Prop :=
  -- The offset of the clock that the text was read from does not count.
  ∃ instant, read? text = some instant ∧ instant.micros = micros

namespace Condition

/-- What a comparison says of two values of an order. -/
def Comparison.Relates {α : Type} [LT α] : Comparison → α → α → Prop
  -- The actual value comes first.
  | .equal, x, y => x = y
  | .less, x, y => x < y
  | .lessOrEqual, x, y => x < y ∨ x = y
  | .greater, x, y => y < x
  | .greaterOrEqual, x, y => y < x ∨ x = y

/-- A comparison accepts an order of values exactly where its relation holds of them. -/
theorem Comparison.accepts_iff {α : Type} [LinearOrder α] {x y : α} {order : Ordering}
    (compared : order.Compares x y) (comparison : Comparison) :
    comparison.accepts order = true ↔ comparison.Relates x y := by
  cases order with
  | lt =>
    have below : x < y := compared
    cases comparison <;> simp [accepts, Relates, below, below.ne, below.not_gt]
  | eq =>
    obtain rfl : x = y := compared
    cases comparison <;> simp [accepts, Relates]
  | gt =>
    have above : y < x := compared
    cases comparison <;> simp [accepts, Relates, above, above.ne', above.not_gt]

/-- Of two values one is less, or they are equal, or one is greater, and never two of these. -/
theorem Comparison.existsUnique_relates {α : Type} [LinearOrder α] (x y : α) :
    ∃! comparison : Comparison,
      (comparison = .less ∨ comparison = .equal ∨ comparison = .greater) ∧
        comparison.Relates x y := by
  rcases lt_trichotomy x y with below | same | above
  · refine ⟨.less, ⟨.inl rfl, below⟩, ?_⟩
    rintro _ ⟨rfl | rfl | rfl, related⟩
    · rfl
    · exact absurd related below.ne
    · exact absurd related below.not_gt
  · refine ⟨.equal, ⟨.inr (.inl rfl), same⟩, ?_⟩
    rintro _ ⟨rfl | rfl | rfl, related⟩
    · exact absurd same (ne_of_lt related)
    · rfl
    · exact absurd same (ne_of_gt related)
  · refine ⟨.greater, ⟨.inr (.inr rfl), above⟩, ?_⟩
    rintro _ ⟨rfl | rfl | rfl, related⟩
    · exact absurd related above.not_gt
    · exact absurd related above.ne'
    · rfl

/-- The two kinds of values that are ordered. -/
inductive Scale where
  | numbers
  | dates

namespace Scale

/-- The family of such values. -/
def family : Scale → Family
  -- Other families have no order.
  | .numbers => .numeric
  | .dates => .date

/-- The operator for a comparison of such values. -/
def operator : Scale → Comparison → Operator
  -- None of these is negated.
  | .numbers, .equal => .numericEquals
  | .numbers, .less => .numericLessThan
  | .numbers, .lessOrEqual => .numericLessThanEquals
  | .numbers, .greater => .numericGreaterThan
  | .numbers, .greaterOrEqual => .numericGreaterThanEquals
  | .dates, .equal => .dateEquals
  | .dates, .less => .dateLessThan
  | .dates, .lessOrEqual => .dateLessThanEquals
  | .dates, .greater => .dateGreaterThan
  | .dates, .greaterOrEqual => .dateGreaterThanEquals

/-- The operator for values that differ. -/
def differs : Scale → Operator
  -- It is the negation of the one for equal values.
  | .numbers => .numericNotEquals
  | .dates => .dateNotEquals

/-- The operator of a comparison is what its name says. -/
theorem operator_spec (scale : Scale) (comparison : Comparison) :
    (scale.operator comparison).family = scale.family ∧
      (scale.operator comparison).comparison = comparison ∧
      (scale.operator comparison).negated = false := by
  cases scale <;> cases comparison <;> exact ⟨rfl, rfl, rfl⟩

/-- The operator for values that differ negates the one for equal values. -/
theorem differs_negates (scale : Scale) : scale.differs.Negates (scale.operator .equal) := by
  cases scale
  · exact .numericEquals
  · exact .dateEquals

/-- No operator on such values is the test for presence. -/
theorem typed {scale : Scale} {operator : Operator} (ranked : operator.family = scale.family) :
    operator ≠ .null := by
  rintro rfl
  cases scale <;> cases ranked

/-- Texts of a family stand for values of an order, by which they are compared. -/
structure Measures (scale : Scale) {α : Type} [LinearOrder α] (stands : String → α → Prop) :
    Prop where
  unique : ∀ {text : String} {x y : α}, stands text x → stands text y → x = y
  readable : ∀ (side : Side) (text : String),
    (∃ value, Value.read? scale.family side text = some value) ↔ ∃ x, stands text x
  compared : ∀ {actualText expectedText : String} {actual expected : Value} {x y : α},
    Value.read? scale.family .actual actualText = some actual →
    Value.read? scale.family .expected expectedText = some expected →
    stands actualText x → stands expectedText y →
      ∀ operator : Operator,
        (operator.accepts actual expected = true ↔ operator.comparison.Relates x y)

/-- A reader with a rank of what it reads measures texts by their ranks. -/
theorem Measures.of_reader {scale : Scale} {α β : Type} [LinearOrder α]
    {stands : String → α → Prop} {read : String → Option β} {rank : β → α} {wrap : β → Value}
    {order : β → β → Ordering}
    (stands_iff : ∀ text x, stands text x ↔ ∃ found, read text = some found ∧ rank found = x)
    (reads : ∀ side text, Value.read? scale.family side text = (read text).map wrap)
    (ordered : ∀ a b, (order a b).Compares (rank a) (rank b))
    (accepts : ∀ (operator : Operator) a b,
      operator.accepts (wrap a) (wrap b) = operator.comparison.accepts (order a b)) :
    scale.Measures stands where
  unique := by
    intro text x y standsX standsY
    obtain ⟨a, readA, rfl⟩ := (stands_iff text x).mp standsX
    obtain ⟨b, readB, rfl⟩ := (stands_iff text y).mp standsY
    rw [Option.some.inj (readA.symm.trans readB)]
  readable := by
    intro side text
    simp only [reads, Option.map_eq_some_iff, stands_iff]
    constructor
    · rintro ⟨_, found, here, -⟩
      exact ⟨_, found, here, rfl⟩
    · rintro ⟨_, found, here, -⟩
      exact ⟨_, found, here, rfl⟩
  compared := by
    intro actualText expectedText actual expected x y readActual readExpected standsX standsY
      operator
    obtain ⟨a, readA, rfl⟩ := (stands_iff actualText x).mp standsX
    obtain ⟨b, readB, rfl⟩ := (stands_iff expectedText y).mp standsY
    rw [reads, readA] at readActual
    rw [reads, readB] at readExpected
    obtain rfl := Option.some.inj readActual
    obtain rfl := Option.some.inj readExpected
    rw [accepts]
    exact Comparison.accepts_iff (ordered a b) operator.comparison

/-- Numbers are compared by the rational numbers that they stand for. -/
theorem measures_numbers : numbers.Measures Number.Decimal.StandsFor :=
  .of_reader (fun _ _ => Number.Decimal.standsFor_iff) (fun _ _ => rfl)
    Number.Decimal.compareValue_compares fun _ _ _ => rfl

/-- Dates are compared by the points in time that they stand for. -/
theorem measures_dates : dates.Measures Time.Timestamp.StandsFor :=
  .of_reader (fun _ _ => Iff.rfl) (fun _ _ => rfl) Time.Instant.compareTime_compares
    fun _ _ _ => rfl

namespace Measures

variable {scale : Scale} {α : Type} [LinearOrder α] {stands : String → α → Prop}
  {operator : Operator} {text other : String} {x y : α}

/-- A text that stands for a value matches the expected texts whose values are related to it. -/
theorem acceptsText_iff (measures : scale.Measures stands)
    (ranked : operator.family = scale.family) {actual : Value}
    (read : Value.read? scale.family .actual text = some actual) (known : stands text x) :
    operator.acceptsText actual other = true ↔
      ∃ y, stands other y ∧ operator.comparison.Relates x y := by
  have unnamed : operator.family ≠ .arn := by
    rw [ranked]
    cases scale <;> simp [family]
  rw [Operator.acceptsText_iff_of_ne_arn unnamed, ranked]
  constructor
  · rintro ⟨expected, readToo, accepted⟩
    obtain ⟨y, knownToo⟩ := (measures.readable .expected other).mp ⟨expected, readToo⟩
    exact ⟨y, knownToo, (measures.compared read readToo known knownToo operator).mp accepted⟩
  · rintro ⟨y, knownToo, related⟩
    obtain ⟨expected, readToo⟩ := (measures.readable .expected other).mpr ⟨y, knownToo⟩
    exact ⟨expected, readToo,
      (measures.compared read readToo known knownToo operator).mpr related⟩

/-- What an operator says of a text depends on its value and on those of the expected texts. -/
theorem holds_iff (measures : scale.Measures stands) (ranked : operator.family = scale.family)
    (known : stands text x) (expected : List String) :
    operator.holds text expected = true ↔
      ((∃ other ∈ expected, ∃ y, stands other y ∧ operator.comparison.Relates x y) ↔
        operator.negated = false) := by
  obtain ⟨actual, read⟩ := (measures.readable .actual text).mpr ⟨x, known⟩
  exact Operator.holds_iff_of_read (ranked ▸ read)
    (fun _ => measures.acceptsText_iff ranked read known) expected

/-- A text that stands for nothing satisfies no operator of the family. -/
theorem holds_eq_false (measures : scale.Measures stands) (ranked : operator.family = scale.family)
    (unknown : ∀ x, ¬ stands text x) (expected : List String) :
    operator.holds text expected = false := by
  refine Operator.holds_of_not_reads ?_ expected
  rw [Operator.Reads, ranked, measures.readable, not_exists]
  exact unknown

/-- With one expected text, the operator of a comparison holds where the two values are related. -/
theorem compare_iff (measures : scale.Measures stands) (comparison : Comparison)
    (text other : String) :
    (scale.operator comparison).compare text [other] = .ok true ↔
      ∃ x y, stands text x ∧ stands other y ∧ comparison.Relates x y := by
  obtain ⟨ranked, compares, plain⟩ := scale.operator_spec comparison
  rw [Operator.compare_eq (typed ranked), Except.ok.injEq]
  by_cases readable : ∃ x, stands text x
  · obtain ⟨x, known⟩ := readable
    simp only [measures.holds_iff ranked known, compares, plain, iff_true, List.mem_singleton,
      exists_eq_left]
    constructor
    · rintro ⟨y, knownToo, related⟩
      exact ⟨x, y, known, knownToo, related⟩
    · rintro ⟨z, y, knownZ, knownToo, related⟩
      exact ⟨y, knownToo, measures.unique knownZ known ▸ related⟩
  · have unknown := not_exists.mp readable
    rw [measures.holds_eq_false ranked unknown]
    refine iff_of_false (by simp) ?_
    rintro ⟨x, _, known, -, -⟩
    exact unknown x known

/-- The operator of a comparison decides every statement that is true where it holds. -/
theorem decides_of_iff (comparison : Comparison) (text other : String) {statement : Prop}
    (truth : (scale.operator comparison).compare text [other] = .ok true ↔ statement) :
    Decides ((scale.operator comparison).compare text [other]) statement := by
  have answered := Operator.compare_eq (typed (scale.operator_spec comparison).1) text [other]
  refine ⟨_, answered, ?_⟩
  rw [← truth, answered, Except.ok.injEq]

/-- With one expected text, the operator of a comparison decides how the two values are related. -/
theorem decides_relation (measures : scale.Measures stands) (known : stands text x)
    (knownToo : stands other y) (comparison : Comparison) :
    Decides ((scale.operator comparison).compare text [other]) (comparison.Relates x y) := by
  refine decides_of_iff comparison text other ((measures.compare_iff comparison text other).trans ?_)
  constructor
  · rintro ⟨x', y', knownX, knownY, related⟩
    rwa [measures.unique known knownX, measures.unique knownToo knownY]
  · intro related
    exact ⟨x, y, known, knownToo, related⟩

/-- A comparison that joins two others holds where one of their operators does. -/
theorem decides_or (measures : scale.Measures stands) {joined first second : Comparison}
    (parts : ∀ x y : α, joined.Relates x y ↔ first.Relates x y ∨ second.Relates x y)
    (text other : String) :
    Decides ((scale.operator joined).compare text [other])
      ((scale.operator first).compare text [other] = .ok true ∨
        (scale.operator second).compare text [other] = .ok true) := by
  refine decides_of_iff joined text other ?_
  simp only [measures.compare_iff, parts, and_or_left, exists_or]

/-- The operator for values that differ decides whether the one for equal values fails. -/
theorem decides_differs (measures : scale.Measures stands) (known : stands text x) :
    Decides (scale.differs.compare text [other])
      ((scale.operator .equal).compare text [other] = .ok false) := by
  have negates := scale.differs_negates
  have reads : (scale.operator .equal).Reads text := by
    rw [Operator.Reads, (scale.operator_spec .equal).1, measures.readable]
    exact ⟨x, known⟩
  refine ⟨_, Operator.compare_eq negates.typed.1 text [other], ?_⟩
  rw [negates.holds_eq_not reads, Operator.compare_eq negates.typed.2, Except.ok.injEq,
    Bool.not_eq_true']

/-- Texts that stand for one value satisfy the same operators. -/
theorem compare_congr (measures : scale.Measures stands) (ranked : operator.family = scale.family)
    (known : stands text x) (knownToo : stands other x) (expected : List String) :
    operator.compare text expected = operator.compare other expected := by
  rw [Operator.compare_eq (typed ranked), Operator.compare_eq (typed ranked), Except.ok.injEq,
    Bool.eq_iff_iff, measures.holds_iff ranked known, measures.holds_iff ranked knownToo]

/-- Texts that stand for one value are expected alike. -/
theorem compare_congr_expected (measures : scale.Measures stands)
    (ranked : operator.family = scale.family) (known : stands text x) (knownToo : stands other x)
    (value : String) (before behind : List String) :
    operator.compare value (before ++ text :: behind) =
      operator.compare value (before ++ other :: behind) := by
  rw [Operator.compare_eq (typed ranked), Operator.compare_eq (typed ranked), Except.ok.injEq]
  by_cases readable : ∃ z, stands value z
  · obtain ⟨z, knownZ⟩ := readable
    have same : ∀ y, stands text y ↔ stands other y := by
      intro y
      constructor
      · intro found
        exact measures.unique known found ▸ knownToo
      · intro found
        exact measures.unique knownToo found ▸ known
    rw [Bool.eq_iff_iff, measures.holds_iff ranked knownZ, measures.holds_iff ranked knownZ]
    simp only [List.mem_append, List.mem_cons, or_and_right, exists_or, exists_eq_left, same]
  · have unknown := not_exists.mp readable
    rw [measures.holds_eq_false ranked unknown, measures.holds_eq_false ranked unknown]

end Measures

/-- The operators of a family decide by the values that texts stand for, and by nothing else. -/
structure DecidesBy (scale : Scale) {α : Type} [LinearOrder α] (stands : String → α → Prop) :
    Prop where
  /-- Texts that can be read stand for one value. -/
  readable : ∀ (operator : Operator), operator.family = scale.family →
    ∀ text, operator.Reads text ↔ ∃! x, stands text x
  /-- With one expected text, the operators compare the two values. -/
  less : ∀ {text other : String} {x y : α}, stands text x → stands other y →
    Decides ((scale.operator .less).compare text [other]) (x < y)
  equal : ∀ {text other : String} {x y : α}, stands text x → stands other y →
    Decides ((scale.operator .equal).compare text [other]) (x = y)
  greater : ∀ {text other : String} {x y : α}, stands text x → stands other y →
    Decides ((scale.operator .greater).compare text [other]) (y < x)
  /-- Of two values that can be read, just one of the three operators holds. -/
  exactlyOne : ∀ {text other : String} {x y : α}, stands text x → stands other y →
    ∃! comparison, comparison ∈ [Comparison.less, .equal, .greater] ∧
      (scale.operator comparison).compare text [other] = .ok true
  /-- The other three operators follow from these. -/
  lessOrEqual : ∀ text other : String,
    Decides ((scale.operator .lessOrEqual).compare text [other])
      ((scale.operator .less).compare text [other] = .ok true ∨
        (scale.operator .equal).compare text [other] = .ok true)
  greaterOrEqual : ∀ text other : String,
    Decides ((scale.operator .greaterOrEqual).compare text [other])
      ((scale.operator .greater).compare text [other] = .ok true ∨
        (scale.operator .equal).compare text [other] = .ok true)
  differs : ∀ {text other : String} {x y : α}, stands text x → stands other y →
    Decides (scale.differs.compare text [other])
      ((scale.operator .equal).compare text [other] = .ok false)
  /-- What is less than something less is less itself. -/
  transitive : ∀ {first second third : String},
    (scale.operator .less).compare first [second] = .ok true →
      (scale.operator .less).compare second [third] = .ok true →
        (scale.operator .less).compare first [third] = .ok true
  /-- Texts that stand for one value take each other's place on either side. -/
  interchangeable : ∀ {text other : String} {x : α}, stands text x → stands other x →
    ∀ (operator : Operator), operator.family = scale.family →
      (∀ expected, operator.compare text expected = operator.compare other expected) ∧
      ∀ (value : String) (before behind : List String),
        operator.compare value (before ++ text :: behind) =
          operator.compare value (before ++ other :: behind)
  /-- A text that cannot be read satisfies no operator. -/
  unreadable : ∀ {text : String}, (∀ x, ¬ stands text x) →
    ∀ (operator : Operator), operator.family = scale.family →
      ∀ expected, operator.compare text expected = .ok false

/-- Operators whose texts are measured decide by what is measured. -/
theorem Measures.decidesBy {scale : Scale} {α : Type} [LinearOrder α] {stands : String → α → Prop}
    (measures : scale.Measures stands) : scale.DecidesBy stands where
  readable operator ranked text := by
    rw [Operator.Reads, ranked, measures.readable]
    constructor
    · rintro ⟨x, known⟩
      exact ⟨x, known, fun y found => measures.unique found known⟩
    · intro unique
      exact unique.exists
  less known knownToo := measures.decides_relation known knownToo .less
  equal known knownToo := measures.decides_relation known knownToo .equal
  greater known knownToo := measures.decides_relation known knownToo .greater
  exactlyOne {text other x y} known knownToo := by
    have holds comparison := (measures.decides_relation known knownToo comparison).eq_true_iff
    simp only [holds, List.mem_cons, List.not_mem_nil, or_false]
    exact Comparison.existsUnique_relates x y
  lessOrEqual := measures.decides_or fun _ _ => Iff.rfl
  greaterOrEqual := measures.decides_or fun _ _ => Iff.rfl
  differs known _ := measures.decides_differs known
  transitive {first second third} below belowToo := by
    obtain ⟨x, y, knownX, knownY, less⟩ := (measures.compare_iff .less first second).mp below
    obtain ⟨z, w, knownZ, knownW, lessToo⟩ := (measures.compare_iff .less second third).mp belowToo
    obtain rfl := measures.unique knownY knownZ
    exact (measures.compare_iff .less first third).mpr ⟨x, w, knownX, knownW, lt_trans less lessToo⟩
  interchangeable known knownToo operator ranked :=
    ⟨measures.compare_congr ranked known knownToo,
      measures.compare_congr_expected ranked known knownToo⟩
  unreadable unknown operator ranked expected := by
    rw [Operator.compare_eq (typed ranked), measures.holds_eq_false ranked unknown]

/--
The operators on numbers and on dates decide by value.

Every text that can be read stands for one rational number, or for one point in time. With one
expected text, just one of the operators for less, equal and greater holds, and it tells how the two
values lie. The other three operators follow from these. Texts that stand for the same value cannot
be told apart on either side, and a text that cannot be read satisfies none of the six.
-/
theorem compare_by_value :
    numbers.DecidesBy Number.Decimal.StandsFor ∧ dates.DecidesBy Time.Timestamp.StandsFor :=
  ⟨measures_numbers.decidesBy, measures_dates.decidesBy⟩

/-- Numbers of one size with exponents far apart, zeros of either sign, and clocks on two days. -/
theorem compare_by_value_spellings :
    Decides (Operator.compare .numericLessThan "99e398" ["1E400"])
      ((99 : ℚ) * 10 ^ (398 : Int) < 1 * 10 ^ (400 : Int)) ∧
    Operator.compare .numericGreaterThan " -0.00" ["-1"] =
      Operator.compare .numericGreaterThan "+0e7" ["-1"] ∧
    Decides (Operator.compare .dateEquals "2024-03-01T00:30:00+01:00" ["2024-02-29T23:30:00Z"])
      ((1709249400000000 : Int) = 1709249400000000) ∧
    Operator.compare .dateNotEquals "2024-02-30T00:00:00Z" ["2024-02-29T23:30:00Z"] =
      .ok false := by
  obtain ⟨numeric, dated⟩ := compare_by_value
  have smaller : Number.Decimal.StandsFor "99e398" (99 * 10 ^ (398 : Int)) :=
    Number.Decimal.standsFor_iff.mpr ⟨⟨false, 99, 398⟩, by decide +kernel, rfl⟩
  have greater : Number.Decimal.StandsFor "1E400" (1 * 10 ^ (400 : Int)) :=
    Number.Decimal.standsFor_iff.mpr ⟨⟨false, 1, 400⟩, by decide +kernel, by
      simp [Number.Decimal.value, Number.Decimal.size]⟩
  have minus : Number.Decimal.StandsFor " -0.00" 0 :=
    Number.Decimal.standsFor_iff.mpr ⟨⟨true, 0, -2⟩, by decide +kernel, by
      simp [Number.Decimal.value, Number.Decimal.size]⟩
  have plus : Number.Decimal.StandsFor "+0e7" 0 :=
    Number.Decimal.standsFor_iff.mpr ⟨⟨false, 0, 7⟩, by decide +kernel, by
      simp [Number.Decimal.value, Number.Decimal.size]⟩
  have ahead : Time.Timestamp.StandsFor "2024-03-01T00:30:00+01:00" 1709249400000000 :=
    ⟨⟨1709249400000000, 3600000000⟩, by decide +kernel, rfl⟩
  have universal : Time.Timestamp.StandsFor "2024-02-29T23:30:00Z" 1709249400000000 :=
    ⟨⟨1709249400000000, 0⟩, by decide +kernel, rfl⟩
  have noDate : ∀ micros, ¬ Time.Timestamp.StandsFor "2024-02-30T00:00:00Z" micros := by
    rintro micros ⟨instant, read, -⟩
    rw [show Time.Timestamp.read? "2024-02-30T00:00:00Z" = none by decide +kernel] at read
    cases read
  exact ⟨numeric.less smaller greater, (numeric.interchangeable minus plus _ rfl).1 _,
    dated.equal ahead universal, dated.unreadable noDate _ rfl _⟩

end Scale

end Condition

end AccessPolicy
