import AccessPolicy.Proofs.Condition.Value
import AccessPolicy.Proofs.Evaluation.FailureLocation
import AccessPolicy.Proofs.Policy.DocumentReader

/-! Accepted documents refuse a request only for an operator that has no settled meaning. -/

namespace AccessPolicy.Policy

open Condition (Entry)

/-- A statement concerns a request, and some entry of its condition has no settled meaning. -/
def Statement.Unsettled (statement : Statement) (request : Request) : Prop :=
  -- Whether the other entries hold does not count.
  statement.Concerns request ∧
    ∃ entry ∈ statement.condition.getD [], entry.operator.isUnsettled = true

/-- Whether a statement is unsettled can be computed. -/
instance (statement : Statement) (request : Request) : Decidable (statement.Unsettled request) :=
  inferInstanceAs (Decidable (_ ∧ _))

/-- A statement of suitable entries is refused for its first entry of unsettled meaning. -/
theorem Statement.applies_eq_error_iff {statement : Statement} {request : Request}
    (suitable : ∀ entry ∈ statement.condition.getD [], entry.Suitable)
    {fault : Condition.Fault} :
    statement.applies request = .error fault ↔
      statement.Concerns request ∧
        ∃ entry, (statement.condition.getD []).find? (·.operator.isUnsettled) = some entry ∧
          fault = .unsettledOperator entry.operator.raw := by
  rw [applies_refused_iff]
  exact or_iff_left fun other =>
    not_lacksValue (fun entry member => (suitable entry member).not_valueless) other.1

/-- A statement of suitable entries can be decided unless one of them is unsettled. -/
theorem Statement.decided_iff {statement : Statement} {request : Request}
    (suitable : ∀ entry ∈ statement.condition.getD [], entry.Suitable) :
    (∃ answer, statement.applies request = .ok answer) ↔ ¬ statement.Unsettled request := by
  constructor
  · rintro ⟨answer, decided⟩ ⟨about, entry, member, unsettled⟩
    -- Where some entry is unsettled there is a first one, and the statement is refused for it.
    obtain ⟨first, found⟩ : ∃ first, (statement.condition.getD []).find?
        (·.operator.isUnsettled) = some first :=
      Option.isSome_iff_exists.mp (List.find?_isSome.mpr ⟨entry, member, unsettled⟩)
    have refused := (applies_eq_error_iff suitable).mpr ⟨about, first, found, rfl⟩
    simp [decided] at refused
  · intro settled
    cases outcome : statement.applies request with
    | ok answer => exact ⟨answer, rfl⟩
    | error fault =>
      obtain ⟨about, entry, found, -⟩ := (applies_eq_error_iff suitable).mp outcome
      have unsettled := List.find?_some found
      exact absurd ⟨about, entry, List.mem_of_find?_eq_some found, unsettled⟩ settled

/-- Every entry of an accepted document suits its operator. -/
theorem Document.read_suitable {tree : Json} {document : Document}
    (accepted : (Document.read tree).result = .ok document) :
    ∀ statement ∈ document.statements, ∀ entry ∈ statement.condition.getD [], entry.Suitable := by
  intro statement member
  obtain ⟨position, found⟩ := List.getElem?_of_mem member
  obtain ⟨-, value, read⟩ := Document.read_statement accepted found
  exact Reader.suitable_of_readStatement read

/-- Nothing in a statement can stop an evaluation but an operator without a settled meaning. -/
structure Statement.Sound (statement : Statement) : Prop where
  /-- One of the two spellings of the action element is there. -/
  action : statement.action.covered? = none → statement.action.leftOut? ≠ none
  /-- One of the two spellings of the resource element is there. -/
  resource : statement.resource.covered? = none → statement.resource.leftOut? ≠ none
  /-- Entries neither miss a value that they need nor compare values to test for presence. -/
  refusal : ∀ entry ∈ statement.condition.getD [], ∀ context fault,
    entry.evaluate context = .error fault → fault = .unsettledOperator entry.operator.raw
  /-- Every expected value can be read, or is the wildcard that is never read. -/
  expected : ∀ entry ∈ statement.condition.getD [], ∀ value ∈ entry.values,
    entry.operator.base.family = .arn ∧ value = Arn.wildcard ∨
      ∃ expected, Condition.Value.read? entry.operator.base.family .expected value = some expected
  /-- Values of a request and of the statement are compared only where they are of one kind. -/
  compared : ∀ entry ∈ statement.condition.getD [], ∀ text value actual expected,
    Condition.Value.read? entry.operator.base.family .actual text = some actual →
      Condition.Value.read? entry.operator.base.family .expected value = some expected →
        Condition.Value.Comparable actual expected

/-- A statement of suitable entries is sound. -/
theorem Statement.sound_of_suitable {statement : Statement}
    (suitable : ∀ entry ∈ statement.condition.getD [], entry.Suitable) : statement.Sound where
  action := by cases statement.action <;> simp [Selection.covered?, Selection.leftOut?]
  resource := by cases statement.resource <;> simp [Selection.covered?, Selection.leftOut?]
  refusal := fun entry member context fault refused =>
    (((suitable entry member).evaluate_eq_error_iff context fault).mp refused).2
  expected := fun entry member => (suitable entry member).readable
  compared := fun _ _ _ _ _ _ left right => Condition.Value.comparable_of_read left right

/-- A document of suitable entries is refused for the first statement that is unsettled. -/
theorem Document.evaluate_eq_error_of_suitable {document : Document} {request : Request}
    (suitable : ∀ statement ∈ document.statements,
      ∀ entry ∈ statement.condition.getD [], entry.Suitable)
    {error : EvaluationError} (refused : document.evaluate request = .error error) :
    ∃ earlier statement later entry, document.statements = earlier ++ statement :: later ∧
      (∀ other ∈ earlier, ¬ other.Unsettled request) ∧ statement.Concerns request ∧
      (statement.condition.getD []).find? (·.operator.isUnsettled) = some entry ∧
      error = ⟨.unsettled entry.operator.raw, ⟨some statement.index, statement.sid⟩⟩ := by
  obtain ⟨statement, fault, ⟨earlier, later, split, decided, -⟩, undecided, rfl⟩ :=
    evaluate_refused_iff.mp refused
  have inside : ∀ other ∈ earlier, other ∈ document.statements := by
    intro other member
    simp [split, member]
  obtain ⟨about, entry, first, rfl⟩ := (Statement.applies_eq_error_iff
    (suitable statement (by simp [split]))).mp undecided
  refine ⟨earlier, statement, later, entry, split, fun other member => ?_, about, first, rfl⟩
  exact (Statement.decided_iff (suitable other (inside other member))).mp (decided other member)

/-- A document of suitable entries is refused for no other kind of reason. -/
theorem Document.kind_of_suitable {document : Document} {request : Request}
    (suitable : ∀ statement ∈ document.statements,
      ∀ entry ∈ statement.condition.getD [], entry.Suitable)
    {error : EvaluationError} (refused : document.evaluate request = .error error) :
    error.fault.kind = .unsupportedCondition := by
  obtain ⟨-, -, -, -, -, -, -, -, rfl⟩ := evaluate_eq_error_of_suitable suitable refused
  rfl

/-- A document of suitable entries is refused exactly where some statement is unsettled. -/
theorem Document.refused_iff_of_suitable {document : Document} {request : Request}
    (suitable : ∀ statement ∈ document.statements,
      ∀ entry ∈ statement.condition.getD [], entry.Suitable) :
    (∃ error, document.evaluate request = .error error) ↔
      ∃ statement ∈ document.statements, statement.Unsettled request := by
  constructor
  · rintro ⟨error, refused⟩
    obtain ⟨earlier, statement, later, entry, split, -, about, first, -⟩ :=
      evaluate_eq_error_of_suitable suitable refused
    have unsettled := List.find?_some first
    exact ⟨statement, by simp [split], about, entry, List.mem_of_find?_eq_some first, unsettled⟩
  · rintro ⟨statement, member, unsettled⟩
    -- An outcome would mean that every statement was decided, this one included.
    cases evaluated : document.evaluate request with
    | error error => exact ⟨error, rfl⟩
    | ok outcome =>
      obtain ⟨complete, -⟩ := evaluate_eq_ok_iff.mp evaluated
      have decided := Survey.failure_eq_none_iff.mp complete statement member
      exact absurd unsettled ((Statement.decided_iff (suitable statement member)).mp decided)

/--
Evaluating an accepted document yields an outcome or refuses an unsettled operator.

It is refused exactly where an unsettled statement concerns the request, by the first such
statement and its first such entry. No other fault and no other doubtful branch is within reach.
-/
theorem Document.evaluate_of_read {tree : Json} {document : Document}
    (accepted : (Document.read tree).result = .ok document) (request : Request) :
    ((∃ outcome, document.evaluate request = .ok outcome) ∨
      ∃ error, document.evaluate request = .error error ∧
        error.fault.kind = .unsupportedCondition) ∧
    ((∃ error, document.evaluate request = .error error) ↔
      ∃ statement ∈ document.statements, statement.Unsettled request) ∧
    (∀ error, document.evaluate request = .error error →
      ∃ earlier statement later before entry behind,
        document.statements = earlier ++ statement :: later ∧
        (∀ other ∈ earlier, ¬ other.Unsettled request) ∧
        statement.Concerns request ∧
        statement.condition = some (before ++ entry :: behind) ∧
        (∀ other ∈ before, other.operator.isUnsettled = false) ∧
        entry.operator.isUnsettled = true ∧
        error = ⟨.unsettled entry.operator.raw, ⟨some earlier.length, statement.sid⟩⟩) ∧
    ∀ statement ∈ document.statements, statement.Sound := by
  have suitable := Document.read_suitable accepted
  refine ⟨?_, refused_iff_of_suitable suitable, fun error refused => ?_, fun statement member =>
    Statement.sound_of_suitable (suitable statement member)⟩
  · cases evaluated : document.evaluate request with
    | ok outcome => exact Or.inl ⟨outcome, rfl⟩
    | error error => exact Or.inr ⟨error, rfl, kind_of_suitable suitable evaluated⟩
  · obtain ⟨earlier, statement, later, entry, split, settled, about, first, rfl⟩ :=
      evaluate_eq_error_of_suitable suitable refused
    obtain ⟨unsettled, before, behind, entries, passed⟩ := List.find?_eq_some_iff_append.mp first
    -- The condition is there, because it has an entry, and the place is the one in the list.
    have condition : statement.condition = some (before ++ entry :: behind) := by
      cases present : statement.condition with
      | none => simp [present] at entries
      | some all => simpa [present] using entries
    have here : document.statements[earlier.length]? = some statement := by simp [split]
    have place : statement.index = earlier.length := (Document.read_statement accepted here).1
    exact ⟨earlier, statement, later, before, entry, behind, split, settled, about, condition,
      by simpa using passed, unsettled, by rw [place]⟩

/-- A policy whose second statement negates under a set operator, behind an entry that fails. -/
def taggedTree : Json :=
  -- The first statement denies whatever the second one says.
  .object [("Statement", .array [
    .object [("Effect", .string "Deny"), ("Action", .string "s3:*"), ("Resource", .string "*")],
    .object [("Sid", .string "Tagged"), ("Effect", .string "Allow"),
      ("NotAction", .string "iam:*"), ("Resource", .string "*"),
      ("Condition", .object [("StringEquals", .object [("team", .string "ops")]),
        ("ForAllValues:StringNotEquals", .object [("tags", .array [.string "a"])])])]])]

/-- The document of that policy. -/
def taggedDocument : Document :=
  -- Single texts have become lists, and places have been counted.
  ⟨"2008-10-17", none,
    [⟨0, none, .deny, .only ["s3:*"], .only ["*"], none, none⟩,
      ⟨1, some "Tagged", .allow, .allBut ["iam:*"], .only ["*"], none,
        some [⟨⟨"StringEquals", .stringEquals, false, none⟩, "team", ["ops"]⟩,
          ⟨⟨"ForAllValues:StringNotEquals", .stringNotEquals, false, some .forAllValues⟩, "tags",
            ["a"]⟩]⟩]⟩

/-- The policy is refused for its second statement, although the first one denies the request. -/
theorem evaluate_tagged :
    (Document.read taggedTree).result = .ok taggedDocument ∧
      ∃ error, taggedDocument.evaluate ⟨"s3:GetObject", "arn:aws:s3:::b/k", none, .empty⟩ =
        .error error := by
  have accepted : (Document.read taggedTree).result = .ok taggedDocument :=
    eq_ok_of_toOption (by decide +kernel)
  exact ⟨accepted, (Document.evaluate_of_read accepted _).2.1.mpr (by decide +kernel)⟩

end AccessPolicy.Policy
