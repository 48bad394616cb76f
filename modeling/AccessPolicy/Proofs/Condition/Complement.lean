import AccessPolicy.Proofs.Condition.Decomposition

/-!
Negated operators beside their positive forms.

Over values that can be read for its family, a negated operator is the complement of its positive
form, for one value as for several. A value that cannot be read satisfies neither of the two, so
that the negated form fails for every key that has such a value.
-/

namespace AccessPolicy.Condition

namespace Operator

/-- One operator is the negation of another. -/
inductive Negates : Operator → Operator → Prop where
  | stringEquals : Negates .stringNotEquals .stringEquals
  | stringEqualsIgnoreCase : Negates .stringNotEqualsIgnoreCase .stringEqualsIgnoreCase
  | stringLike : Negates .stringNotLike .stringLike
  | numericEquals : Negates .numericNotEquals .numericEquals
  | dateEquals : Negates .dateNotEquals .dateEquals
  | ipAddress : Negates .notIpAddress .ipAddress
  | arnEquals : Negates .arnNotEquals .arnEquals
  | arnLike : Negates .arnNotLike .arnLike

/-- A value of a request can be read for the family of an operator. -/
def Reads (operator : Operator) (value : String) : Prop :=
  -- Texts can always be read, other values only if they are written as such.
  ∃ actual, Value.read? operator.family .actual value = some actual

/-- Whether a value can be read is decidable. -/
instance (operator : Operator) (value : String) : Decidable (operator.Reads value) :=
  decidable_of_iff ((Value.read? operator.family .actual value).isSome = true)
    Option.isSome_iff_exists

variable {operator negative positive : Operator} {value : String}

/-- The negation has a negation in its name, and the positive form has none. -/
theorem Negates.negated (negates : Negates negative positive) :
    negative.negated = true ∧ positive.negated = false := by
  cases negates <;> exact ⟨rfl, rfl⟩

/-- The negation reads the same values and finds the same matches. -/
theorem Negates.matches_same (negates : Negates negative positive) :
    negative.family = positive.family ∧ negative.acceptsText = positive.acceptsText := by
  cases negates <;> exact ⟨rfl, rfl⟩

/-- Neither of the two is the test for presence. -/
theorem Negates.typed (negates : Negates negative positive) :
    negative ≠ .null ∧ positive ≠ .null := by
  cases negates <;> decide

/-- A value that cannot be read satisfies no operator. -/
theorem holds_of_not_reads (unread : ¬ operator.Reads value) (expected : List String) :
    operator.holds value expected = false := by
  have none : Value.read? operator.family .actual value = none :=
    Option.eq_none_iff_forall_ne_some.mpr fun actual read => unread ⟨actual, read⟩
  rw [holds, none]

/-- A value that can be read satisfies an operator by its matches. -/
theorem holds_of_read {actual : Value}
    (read : Value.read? operator.family .actual value = some actual) (expected : List String) :
    operator.holds value expected =
      ((expected.any (operator.acceptsText actual)) != operator.negated) := by
  rw [holds, read]

/-- A value satisfies an operator if some expected text matches it, or none if it is negated. -/
theorem holds_iff_of_read {actual : Value}
    (read : Value.read? operator.family .actual value = some actual) {fits : String → Prop}
    (accepts : ∀ text, operator.acceptsText actual text = true ↔ fits text)
    (expected : List String) :
    operator.holds value expected = true ↔
      ((∃ text ∈ expected, fits text) ↔ operator.negated = false) := by
  have found : expected.any (operator.acceptsText actual) = true ↔ ∃ text ∈ expected, fits text := by
    simp only [List.any_eq_true, accepts]
  rw [holds_of_read read, ← found]
  cases expected.any (operator.acceptsText actual) <;> cases operator.negated <;> simp

/-- An expected text matches where it is read as a value that does. -/
theorem acceptsText_of_accepts {actual expected : Value} {text : String}
    (read : Value.read? operator.family .expected text = some expected)
    (accepted : operator.accepts actual expected = true) :
    operator.acceptsText actual text = true := by
  rw [acceptsText]
  split
  · rfl
  · rw [read]
    exact accepted

/-- But for names, which have a wildcard, no other expected text matches. -/
theorem acceptsText_iff_of_ne_arn {actual : Value} {text : String} (other : operator.family ≠ .arn) :
    operator.acceptsText actual text = true ↔
      ∃ expected, Value.read? operator.family .expected text = some expected ∧
        operator.accepts actual expected = true := by
  constructor
  · intro accepted
    rw [acceptsText, if_neg (not_and_of_not_left _ other)] at accepted
    split at accepted
    · rename_i expected read
      exact ⟨expected, read, accepted⟩
    · cases accepted
  · rintro ⟨expected, read, accepted⟩
    exact acceptsText_of_accepts read accepted

/-- Of a value that can be read, the negation holds where the positive form does not. -/
theorem Negates.holds_eq_not (negates : Negates negative positive) (reads : positive.Reads value)
    (expected : List String) : negative.holds value expected = !positive.holds value expected := by
  obtain ⟨actual, read⟩ := reads
  obtain ⟨family, acceptsText⟩ := negates.matches_same
  obtain ⟨negated, plain⟩ := negates.negated
  rw [holds_of_read read, holds_of_read (family ▸ read), acceptsText, negated, plain]
  simp

/-- Against two lists of expected texts in a row, one list suffices unless the operator is negated. -/
theorem holds_append (operator : Operator) (value : String) (first second : List String) :
    operator.holds value (first ++ second) =
      if operator.negated then operator.holds value first && operator.holds value second
      else operator.holds value first || operator.holds value second := by
  by_cases reads : operator.Reads value
  · obtain ⟨actual, read⟩ := reads
    simp only [holds_of_read read, List.any_append]
    cases operator.negated <;> simp
  · simp [holds_of_not_reads reads]

end Operator

/-- An entry without set operator asks all values of a negated operator, and else one of them. -/
theorem Entry.evaluate_of_unquantified {operator : Operator} (typed : operator ≠ .null)
    (raw key : String) (ifExists : Bool) (expected : List String) (context : Context) :
    Entry.evaluate ⟨⟨raw, operator, ifExists, none⟩, key, expected⟩ context =
      let values := (context.values? key).getD []
      .ok (if values.isEmpty then ifExists
        else if operator.negated then values.all (operator.holds · expected)
        else values.any (operator.holds · expected)) := by
  have settled : (⟨raw, operator, ifExists, none⟩ : OperatorKey).isUnsettled = false := rfl
  have unquantified : ((none : Option Quantifier) == some .forAllValues) = false := rfl
  rw [evaluate_of_typed settled typed, unquantified, Bool.or_false]
  rfl

namespace Operator.Negates

variable {negative positive : Operator} {values : List String}

/-- All values satisfy the negation exactly where none satisfies the positive form. -/
theorem all_eq_not_any (negates : Negates negative positive)
    (readable : ∀ value ∈ values, positive.Reads value) (expected : List String) :
    values.all (negative.holds · expected) = !values.any (positive.holds · expected) := by
  rw [List.not_any_eq_all_not, Bool.eq_iff_iff, List.all_eq_true, List.all_eq_true]
  refine forall_congr' fun value => imp_congr_right fun inside => ?_
  rw [negates.holds_eq_not (readable value inside)]

/-- A value that cannot be read keeps the values from satisfying the negation together. -/
theorem all_eq_false (negates : Negates negative positive)
    (unreadable : ∃ value ∈ values, ¬ positive.Reads value) (expected : List String) :
    values.all (negative.holds · expected) = false := by
  obtain ⟨value, inside, unread⟩ := unreadable
  have unreadToo : ¬ negative.Reads value := by
    rwa [Reads, negates.matches_same.1]
  exact List.all_eq_false.mpr ⟨value, inside, by simp [holds_of_not_reads unreadToo]⟩

/-- Values do not satisfy both forms, whether or not they can be read. -/
theorem not_any_and_all (negates : Negates negative positive) (expected : List String)
    (one : values.any (positive.holds · expected) = true) :
    values.all (negative.holds · expected) = false := by
  by_cases readable : ∀ value ∈ values, positive.Reads value
  · rw [negates.all_eq_not_any readable, one, Bool.not_true]
  · exact negates.all_eq_false (by simpa using readable) expected

end Operator.Negates

/--
A negated operator is the complement of its positive form.

Where the key has values and all of them can be read, the two entries answer contrary to each other,
with the ending as without it. Where a value cannot be read, the negated entry fails. Without the
ending, no context satisfies both. More expected texts give an operator more ways to hold, and a
negated operator more ways to fail.
-/
theorem evaluate_complements :
    (∀ (negative positive : Operator), negative.Negates positive →
      ∀ (raw rawToo key : String) (ifExists : Bool) (expected : List String) (context : Context),
        let values := (context.values? key).getD []
        let refusing : Entry := ⟨⟨raw, negative, ifExists, none⟩, key, expected⟩
        let asking : Entry := ⟨⟨rawToo, positive, ifExists, none⟩, key, expected⟩
        (values ≠ [] → (∀ value ∈ values, positive.Reads value) →
          ∃ answer, asking.evaluate context = .ok answer ∧
            refusing.evaluate context = .ok (!answer)) ∧
        ((∃ value ∈ values, ¬ positive.Reads value) → refusing.evaluate context = .ok false) ∧
        (ifExists = false →
          ¬ (asking.evaluate context = .ok true ∧ refusing.evaluate context = .ok true))) ∧
    ∀ (operator : Operator), operator ≠ .null →
      ∀ (value : String) (first second : List String), ∃ answer answerToo : Bool,
        operator.compare value first = .ok answer ∧ operator.compare value second = .ok answerToo ∧
        operator.compare value (first ++ second) =
          .ok (if operator.negated then answer && answerToo else answer || answerToo) := by
  refine ⟨fun negative positive negates raw rawToo key ifExists expected context => ?_,
    fun operator typed value first second => ?_⟩
  · obtain ⟨typed, typedToo⟩ := negates.typed
    obtain ⟨negated, plain⟩ := negates.negated
    have refuses := Entry.evaluate_of_unquantified typed raw key ifExists expected context
    have asks := Entry.evaluate_of_unquantified typedToo rawToo key ifExists expected context
    simp only [List.isEmpty_iff, negated, plain, if_true, Bool.false_eq_true, if_false]
      at refuses asks
    refine ⟨fun filled readable => ⟨_, asks, ?_⟩, fun unreadable => ?_, fun bare both => ?_⟩
    · rw [refuses, if_neg filled, if_neg filled, negates.all_eq_not_any readable]
    · have filled : (context.values? key).getD [] ≠ [] := by
        obtain ⟨value, inside, -⟩ := unreadable
        exact List.ne_nil_of_mem inside
      rw [refuses, if_neg filled, negates.all_eq_false unreadable]
    · -- Without values neither form holds, and else one value would satisfy what all refuse.
      obtain ⟨asked, refused⟩ := both
      rw [asks, bare] at asked
      rw [refuses, bare] at refused
      by_cases filled : (context.values? key).getD [] = []
      · simp [filled] at asked
      · rw [if_neg filled, Except.ok.injEq] at asked refused
        simp [negates.not_any_and_all expected asked] at refused
  · exact ⟨_, _, Operator.compare_eq typed value first, Operator.compare_eq typed value second,
      by rw [Operator.compare_eq typed, Operator.holds_append]⟩

/-- The two forms over two numbers, and over a number and a text that is none. -/
theorem evaluate_complements_ages :
    let ages : Context := .ofEntries [("Age", ["7", "5.0"])]
    let mixed : Context := .ofEntries [("age", ["7", "old"])]
    let asking : Entry := ⟨⟨"NumericEquals", .numericEquals, false, none⟩, "age", ["5"]⟩
    let refusing : Entry := ⟨⟨"NumericNotEquals", .numericNotEquals, false, none⟩, "age", ["5"]⟩
    (∃ answer, asking.evaluate ages = .ok answer ∧ refusing.evaluate ages = .ok (!answer)) ∧
      refusing.evaluate mixed = .ok false ∧
      ¬ (asking.evaluate ages = .ok true ∧ refusing.evaluate ages = .ok true) ∧
      ∃ answer answerToo, Operator.compare .numericNotEquals "7" ["5"] = .ok answer ∧
        Operator.compare .numericNotEquals "7" ["7e0"] = .ok answerToo ∧
        Operator.compare .numericNotEquals "7" ["5", "7e0"] = .ok (answer && answerToo) := by
  obtain ⟨forms, lists⟩ := evaluate_complements
  have overAges := forms _ _ .numericEquals "NumericNotEquals" "NumericEquals" "age" false ["5"]
    (.ofEntries [("Age", ["7", "5.0"])])
  have overMixed := forms _ _ .numericEquals "NumericNotEquals" "NumericEquals" "age" false ["5"]
    (.ofEntries [("age", ["7", "old"])])
  refine ⟨overAges.1 (by decide +kernel) (by decide +kernel), overMixed.2.1 (by decide +kernel),
    overAges.2.2 rfl, ?_⟩
  exact lists .numericNotEquals (by decide) "7" ["5"] ["7e0"]

end AccessPolicy.Condition
