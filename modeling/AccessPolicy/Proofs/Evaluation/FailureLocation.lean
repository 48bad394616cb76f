import AccessPolicy.Proofs.Evaluation.Survey

/-!
Where a failed evaluation has its error: in the first statement that cannot be decided.

A statement cannot be decided for one of two reasons. An operator without a settled meaning is
reported with the statement. A test for presence without a value is something that no evaluation is
prepared for, and what is reported then does not say in which statement it was.
-/

namespace AccessPolicy

/-- Every fault of an evaluation is an error of evaluations, if it is no special one. -/
theorem EvaluationFault.evaluationError_mem_lineage (fault : EvaluationFault) :
    .evaluationError ∈ fault.kind.lineage := by
  cases fault <;> simp [kind, ErrorKind.lineage]

/-- An error names a statement: it has the place of it, and its wording starts with that place. -/
structure EvaluationError.Names (error : EvaluationError) (statement : Policy.Statement) :
    Prop where
  place : error.place = ⟨some statement.index, statement.sid⟩
  message : error.message =
    statementText (Policy.placeText statement.index) statement.sid ++ ": " ++ error.fault.reason

/-- An error that has the place of a statement names it. -/
theorem EvaluationError.names_of_place {error : EvaluationError} {statement : Policy.Statement}
    (placed : error.place = ⟨some statement.index, statement.sid⟩) : error.Names statement := by
  refine ⟨placed, ?_⟩
  have location : error.location =
      statementText (Policy.placeText statement.index) statement.sid := by
    rw [EvaluationError.location, locationText, placed]
    simp [pathText, Text.joined]
  -- The place of a statement is no empty text, so it is not left out.
  have filled :
      (statementText (Policy.placeText statement.index) statement.sid).isEmpty = false := by
    simp [statementText, Policy.placeText, Policy.placeTextOf]
  rw [EvaluationError.message, location, located, filled]
  rfl

namespace Policy

open Condition (Entry)

/-- A statement concerns a request, and its condition holds up to a test that has no value. -/
structure Statement.LacksValue (statement : Statement) (request : Request) : Prop where
  concerns : statement.Concerns request
  condition : Condition.LacksValue (statement.condition.getD []) request.context

/-- A statement without valueless tests does not lack a value. -/
theorem Statement.not_lacksValue {statement : Statement} {request : Request}
    (valued : ∀ entry ∈ statement.condition.getD [], ¬ entry.Valueless) :
    ¬ statement.LacksValue request := by
  intro lacks
  obtain ⟨entry, reached, valueless⟩ := lacks.condition.reached
  exact valued entry reached.mem valueless

/-- A statement is refused for its first unsettled entry, or else for want of a value. -/
theorem Statement.applies_refused_iff {statement : Statement} {request : Request}
    {fault : Condition.Fault} :
    statement.applies request = .error fault ↔
      (statement.Concerns request ∧
        ∃ entry, (statement.condition.getD []).find? (·.operator.isUnsettled) = some entry ∧
          fault = .unsettledOperator entry.operator.raw) ∨
      statement.LacksValue request ∧ fault = .noExpectedValue := by
  by_cases about : statement.Concerns request
  · have lacks : statement.LacksValue request ↔
        Condition.LacksValue (statement.condition.getD []) request.context :=
      ⟨Statement.LacksValue.condition, Statement.LacksValue.mk about⟩
    rw [applies_of_concerns about, Condition.evaluateBlock_eq_error_iff, lacks, and_iff_right about]
  · -- The condition is not looked at.
    have passed : ¬ statement.LacksValue request := fun lacks => about lacks.concerns
    simp [applies_of_not_concerns about, about, passed]

/-- A statement can be decided about a request. -/
def Statement.Decided (request : Request) (statement : Statement) : Prop :=
  -- Whether it applies is another question.
  ∃ answer, statement.applies request = .ok answer

/-- An evaluation has the error of the first statement that cannot be decided. -/
theorem Document.evaluate_refused_iff {document : Document} {request : Request}
    {error : EvaluationError} :
    document.evaluate request = .error error ↔
      ∃ statement fault, IsFirstWithout (Statement.Decided request) document.statements statement ∧
        statement.applies request = .error fault ∧ error = fault.inStatement statement := by
  rw [evaluate_eq_error_iff]
  refine exists_congr fun statement => exists_congr fun fault => ?_
  rw [survey, Survey.failure_eq_some_iff, ← and_assoc]
  refine and_congr_left fun _ => ?_
  simp only [Survey.failure_eq_none_iff]
  constructor
  · rintro ⟨earlier, later, split, decided, refused⟩
    refine ⟨⟨earlier, later, split, decided, ?_⟩, refused⟩
    rintro ⟨answer, answered⟩
    rw [refused] at answered
    cases answered
  · rintro ⟨⟨earlier, later, split, decided, -⟩, refused⟩
    exact ⟨earlier, later, split, decided, refused⟩

/--
A failed evaluation names its first statement that cannot be decided, with one exception.

The error is always one of evaluations. It names that statement, unless the condition of the
statement holds up to a test for presence that has no value. Then the error has no place, and its
wording says that something unexpected has happened. There is no exception in a document in which
every test for presence has a value.
-/
theorem Document.evaluate_error_place {document : Document} {request : Request}
    {error : EvaluationError} (refused : document.evaluate request = .error error) :
    .evaluationError ∈ error.fault.kind.lineage ∧
    ∃ statement, IsFirstWithout (Statement.Decided request) document.statements statement ∧
      (¬ statement.LacksValue request → error.Names statement ∧
        ∃ entry, (statement.condition.getD []).find? (·.operator.isUnsettled) = some entry ∧
          error.fault = .unsettled entry.operator.raw) ∧
      (statement.LacksValue request → error.place = ⟨none, none⟩ ∧
        error.message =
          "Policy evaluation failed unexpectedly: IndexError: tuple index out of range") ∧
      ((∀ other ∈ document.statements, ∀ entry ∈ other.condition.getD [], ¬ entry.Valueless) →
        error.Names statement) := by
  obtain ⟨statement, fault, first, undecided, rfl⟩ := evaluate_refused_iff.mp refused
  refine ⟨EvaluationFault.evaluationError_mem_lineage _, statement, first, ?_⟩
  rcases Statement.applies_refused_iff.mp undecided with ⟨-, entry, found, rfl⟩ | ⟨lacks, rfl⟩
  · -- The statement has an unsettled entry, and so it is refused for that one.
    have kept : ¬ statement.LacksValue request := by
      intro lacks
      have settled := lacks.condition.settled entry (List.mem_of_find?_eq_some found)
      have unsettled := List.find?_some found
      simp [settled] at unsettled
    have named : ((Condition.Fault.unsettledOperator entry.operator.raw).inStatement
        statement).Names statement :=
      EvaluationError.names_of_place rfl
    exact ⟨fun _ => ⟨named, entry, found, rfl⟩, fun lacks => absurd lacks kept, fun _ => named⟩
  · refine ⟨fun kept => absurd lacks kept, fun _ => ⟨rfl, rfl⟩, fun valued => ?_⟩
    exact absurd lacks (Statement.not_lacksValue (valued statement first.mem))

/-- A statement that denies everything where an entry holds. -/
def guardStatement (entry : Entry) : Statement :=
  -- It stands behind another one.
  ⟨1, some "Guard", .deny, .only ["*"], .only ["*"], none, some [entry]⟩

/-- A document that allows everything, with such a statement behind that. -/
def guardedBy (entry : Entry) : Document :=
  -- The first statement can always be decided.
  ⟨"2012-10-17", none,
    [⟨0, none, .allow, .only ["*"], .only ["*"], none, none⟩, guardStatement entry]⟩

/-- A request about which nothing is known. -/
def plainRequest : Request :=
  -- It has no principal and no context.
  ⟨"s3:GetObject", "arn:aws:s3:::bucket/key", none, .empty⟩

/-- An entry without a settled meaning. -/
def unsettledEntry : Entry :=
  -- All tags have to differ, or only some of them.
  ⟨⟨"ForAllValues:StringNotEquals", .stringNotEquals, false, some .forAllValues⟩, "aws:TagKeys",
    ["env"]⟩

/-- A statement with an unsettled entry is reported. -/
theorem evaluate_error_place_unsettled :
    ∃ error, (guardedBy unsettledEntry).evaluate plainRequest = .error error ∧
      ∃ statement, IsFirstWithout (Statement.Decided plainRequest)
          (guardedBy unsettledEntry).statements statement ∧
        error.Names statement := by
  have refused : (guardedBy unsettledEntry).evaluate plainRequest =
      .error ⟨.unsettled "ForAllValues:StringNotEquals", ⟨some 1, some "Guard"⟩⟩ :=
    faultOf_eq_some_iff.mp (by decide +kernel)
  have valued : ∀ other ∈ (guardedBy unsettledEntry).statements,
      ∀ entry ∈ other.condition.getD [], entry.values ≠ [] := by
    decide
  obtain ⟨-, statement, first, -, -, named⟩ := Document.evaluate_error_place refused
  refine ⟨_, refused, statement, first, named fun other member entry inside valueless => ?_⟩
  exact valued other member entry inside valueless.empty

/-- A test for presence that has no value. -/
def valuelessEntry : Entry :=
  -- Such an entry is built directly, since no policy that is read has one.
  ⟨⟨"Null", .null, false, none⟩, "aws:TagKeys", []⟩

/-- A statement that lacks a value is not reported. -/
theorem evaluate_error_place_valueless :
    IsFirstWithout (Statement.Decided plainRequest) (guardedBy valuelessEntry).statements
        (guardStatement valuelessEntry) ∧
      ∃ error, (guardedBy valuelessEntry).evaluate plainRequest = .error error ∧
        ¬ error.Names (guardStatement valuelessEntry) := by
  have refused : (guardStatement valuelessEntry).applies plainRequest = .error .noExpectedValue :=
    faultOf_eq_some_iff.mp (by decide +kernel)
  have first : IsFirstWithout (Statement.Decided plainRequest)
      (guardedBy valuelessEntry).statements (guardStatement valuelessEntry) := by
    refine ⟨(guardedBy valuelessEntry).statements.take 1, [], rfl, ?_, ?_⟩
    · exact List.forall_mem_singleton.mpr ⟨true, eq_ok_of_toOption (by decide +kernel)⟩
    · rintro ⟨answer, answered⟩
      rw [refused] at answered
      cases answered
  refine ⟨first, _, Document.evaluate_refused_iff.mpr ⟨_, _, first, refused, rfl⟩, ?_⟩
  intro named
  cases named.place

end Policy

end AccessPolicy
