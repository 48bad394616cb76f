import AccessPolicy.Proofs.Evaluation.Decision

/-!
What the log records of an evaluation: the applying statements, and the decision where there is one.

Statements are recorded while they are looked at. A step lemma says what one statement adds, the run
over statements that can all be decided follows by induction, and the first one that cannot be
decided ends the record.
-/

namespace AccessPolicy.Policy

variable {request : Request}

/-- A statement that cannot be decided leaves nothing in the log, nor do those behind it. -/
theorem Document.statementEvents_cons_error {statement : Statement} {fault : Condition.Fault}
    (undecided : statement.applies request = .error fault) (later : List Statement) :
    statementEvents request (statement :: later) = [] := by
  simp [statementEvents, undecided]

/-- A decided statement leaves an event where it applies, in front of those of later statements. -/
theorem Document.statementEvents_cons_ok {statement : Statement} {answer : Bool}
    (decided : statement.applies request = .ok answer) (later : List Statement) :
    statementEvents request (statement :: later) =
      (if answer then [.statementApplicable statement.label statement.effect] else []) ++
        statementEvents request later := by
  cases answer <;> simp [statementEvents, decided]

/-- Statements that can all be decided leave one event each where they apply, in their order. -/
theorem Document.statementEvents_append {earlier : List Statement}
    (decided : ∀ statement ∈ earlier, ∃ answer, statement.applies request = .ok answer)
    (later : List Statement) :
    statementEvents request (earlier ++ later) =
      ((earlier.filter fun statement => decide (statement.Applies request)).map fun statement =>
          .statementApplicable statement.label statement.effect) ++
        statementEvents request later := by
  induction earlier with
  | nil => rfl
  | cons statement behind ih =>
    obtain ⟨⟨answer, answered⟩, others⟩ := List.forall_mem_cons.mp decided
    have applies : statement.Applies request ↔ answer = true := by
      rw [← Statement.applies_eq_true_iff, answered, Except.ok.injEq]
    rw [List.cons_append, statementEvents_cons_ok answered, ih others]
    cases answer <;> simp [applies]

/--
The log of an evaluation says what the evaluation found, and nothing else.

Where a document decides, there is one event for each applying statement, in the order of the
document, and behind them one event of the decision, with the identifiers in order and the places of
the statements found. Where the document cannot decide, only the applying statements before the
first one at fault are recorded, and no decision is.
-/
theorem Document.evaluationEvents_faithful (document : Document) (request : Request) :
    (∀ outcome, document.evaluate request = .ok outcome →
      document.evaluationEvents request =
        ((document.statements.filter fun statement =>
            decide (statement.Applies request)).map fun statement =>
          .statementApplicable statement.label statement.effect) ++
        [.policyDecision outcome.decision.name (Text.sortedSet outcome.sids)
          ((document.survey request).applying.map Statement.index) request.action
          request.resource (request.principal.map Principal.text)]) ∧
    ∀ error, document.evaluate request = .error error →
      (∃ earlier statement later fault, document.statements = earlier ++ statement :: later ∧
        (∀ other ∈ earlier, ∃ answer, other.applies request = .ok answer) ∧
        statement.applies request = .error fault ∧ error = fault.inStatement statement ∧
        document.evaluationEvents request =
          (earlier.filter fun other => decide (other.Applies request)).map fun other =>
            .statementApplicable other.label other.effect) ∧
      ∀ decision sids places action resource principal,
        .policyDecision decision sids places action resource principal ∉
          document.evaluationEvents request := by
  constructor
  · intro outcome decided
    obtain ⟨complete, same⟩ := evaluate_eq_ok_iff.mp decided
    have recorded := statementEvents_append (Survey.failure_eq_none_iff.mp complete) []
    rw [List.append_nil, statementEvents, List.append_nil] at recorded
    have ordered : Text.sortedSet outcome.sids = outcome.sids := by
      rw [same]
      exact Text.sortedSet_of_increasing (Survey.sids_outcome_increasing _)
    simp only [evaluationEvents, decided, recorded, decisionEvent, ordered]
  · intro error refused
    obtain ⟨statement, fault, stopped, rfl⟩ := evaluate_eq_error_iff.mp refused
    obtain ⟨earlier, later, split, complete, undecided⟩ := Survey.failure_eq_some_iff.mp stopped
    have passed := Survey.failure_eq_none_iff.mp complete
    have recorded : document.evaluationEvents request =
        (earlier.filter fun other => decide (other.Applies request)).map fun other =>
          .statementApplicable other.label other.effect := by
      simp only [evaluationEvents, refused]
      rw [split, statementEvents_append passed, statementEvents_cons_error undecided,
        List.append_nil]
    refine ⟨⟨earlier, statement, later, fault, split, passed, undecided, rfl, recorded⟩, ?_⟩
    simp [recorded]

/-- A policy that grants reading but not writing, before it denies everything. -/
def readingDocument : Document :=
  -- The last statement has an empty identifier, so the log names it by its place.
  ⟨"2012-10-17", none,
    [⟨0, some "Read", .allow, .only ["s3:Get*"], .only ["*"], none, none⟩,
      ⟨1, some "Write", .allow, .only ["s3:Put*"], .only ["*"], none, none⟩,
      ⟨2, some "", .deny, .allBut ["iam:*"], .only ["*"], none, none⟩]⟩

/-- The same policy with a statement before the last one that negates under a set operator. -/
def haltingDocument : Document :=
  -- Evaluations never get to the last statement.
  ⟨"2012-10-17", none,
    [⟨0, some "Read", .allow, .only ["s3:Get*"], .only ["*"], none, none⟩,
      ⟨1, some "Write", .allow, .only ["s3:Put*"], .only ["*"], none, none⟩,
      ⟨2, none, .deny, .only ["*"], .only ["*"], none,
        some [⟨⟨"ForAllValues:StringNotEquals", .stringNotEquals, false, some .forAllValues⟩, "tags",
          ["a"]⟩]⟩,
      ⟨3, some "", .deny, .allBut ["iam:*"], .only ["*"], none, none⟩]⟩

/-- The decision is recorded behind the applying statements, and not at all where there is none. -/
theorem evaluationEvents_reading_halting :
    let request : Request := ⟨"s3:GetObject", "arn:aws:s3:::b/k", none, .empty⟩
    readingDocument.evaluate request = .ok ⟨.explicitDeny, []⟩ ∧
    readingDocument.evaluationEvents request =
      [.statementApplicable "Read" .allow, .statementApplicable "Statement[2]" .deny,
        .policyDecision "ExplicitDeny" [] [0, 2] "s3:GetObject" "arn:aws:s3:::b/k" none] ∧
    haltingDocument.evaluate request =
      .error ⟨.unsettled "ForAllValues:StringNotEquals", ⟨some 2, none⟩⟩ ∧
    haltingDocument.evaluationEvents request = [.statementApplicable "Read" .allow] ∧
    .policyDecision "ExplicitDeny" [] [0, 3] "s3:GetObject" "arn:aws:s3:::b/k" none ∉
      haltingDocument.evaluationEvents request := by
  intro request
  have decided : readingDocument.evaluate request = .ok ⟨.explicitDeny, []⟩ :=
    eq_ok_of_toOption (by decide +kernel)
  have refused : haltingDocument.evaluate request =
      .error ⟨.unsettled "ForAllValues:StringNotEquals", ⟨some 2, none⟩⟩ :=
    faultOf_eq_some_iff.mp (by decide +kernel)
  have recorded := (Document.evaluationEvents_faithful readingDocument request).1 _ decided
  have unrecorded := (Document.evaluationEvents_faithful haltingDocument request).2 _ refused
  exact ⟨decided, recorded.trans (by decide +kernel), refused, by decide +kernel,
    unrecorded.2 _ _ _ _ _ _⟩

end AccessPolicy.Policy
