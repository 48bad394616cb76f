import AccessPolicy.Condition.Value

/-! Values that operators compare: the two sides of a comparison are always of one kind. -/

namespace AccessPolicy.Condition.Value

/-- An actual and an expected value of kinds that can be compared with each other. -/
inductive Comparable : Value → Value → Prop where
  | texts (actual expected : String) : Comparable (.text actual) (.text expected)
  | numbers (actual expected : Number.Decimal) : Comparable (.number actual) (.number expected)
  | instants (actual expected : Time.Instant) : Comparable (.instant actual) (.instant expected)
  | truths (actual expected : Bool) : Comparable (.truth actual) (.truth expected)
  | bytes (actual expected : List UInt8) : Comparable (.bytes actual) (.bytes expected)
  | network (actual : Net.Address) (expected : Net.Network) :
      Comparable (.address actual) (.network expected)
  | arns (actual expected : Arn) : Comparable (.arn actual) (.arn expected)

/-- Values that were read for one family can be compared. -/
theorem comparable_of_read {family : Family} {actualText expectedText : String}
    {actual expected : Value} (left : read? family .actual actualText = some actual)
    (right : read? family .expected expectedText = some expected) :
    Comparable actual expected := by
  -- Every family reads both sides into its own kind, but addresses are looked up in networks.
  cases family <;> simp only [read?, Option.some.injEq, Option.map_eq_some_iff] at left right
  case string | stringIgnoreCase | stringLike =>
    subst left right
    exact .texts _ _
  all_goals
    obtain ⟨_, -, rfl⟩ := left
    obtain ⟨_, -, rfl⟩ := right
    constructor

end AccessPolicy.Condition.Value
