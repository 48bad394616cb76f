import AccessPolicy.Proofs.Evaluation.Applicability

/-! Surveys of statements: how they compose, where they stop, and which statements they find. -/

namespace AccessPolicy.Survey

open Policy (Statement)

variable {request : Request}

/-- A statement that cannot be decided ends the survey. -/
theorem of_cons_error {statement : Statement} {fault : Condition.Fault}
    (undecided : statement.applies request = .error fault) (later : List Statement) :
    of request (statement :: later) = ⟨[], some (statement, fault)⟩ := by
  simp [of, undecided]

/-- A decided statement is kept where it applies, and the survey goes on. -/
theorem of_cons_ok {statement : Statement} {answer : Bool}
    (decided : statement.applies request = .ok answer) (later : List Statement) :
    of request (statement :: later) =
      ⟨if answer then statement :: (of request later).applying else (of request later).applying,
        (of request later).failure⟩ := by
  cases answer <;> simp [of, decided]

/-- Requests to which each statement answers alike are surveyed alike. -/
theorem of_congr {other : Request} {statements : List Statement}
    (same : ∀ statement ∈ statements, statement.applies request = statement.applies other) :
    of request statements = of other statements := by
  induction statements with
  | nil => rfl
  | cons statement later ih =>
    obtain ⟨here, behind⟩ := List.forall_mem_cons.mp same
    rw [of, of, here, ih behind]

/-- Surveying two lists in a row goes on behind the first one, unless it cannot be decided. -/
theorem of_append (first second : List Statement) :
    of request (first ++ second) =
      match (of request first).failure with
      | some _ => of request first
      | none =>
        ⟨(of request first).applying ++ (of request second).applying,
          (of request second).failure⟩ := by
  induction first with
  | nil => rfl
  | cons statement later ih =>
    rw [List.cons_append]
    cases decided : statement.applies request with
    | error fault => simp [of_cons_error decided]
    | ok answer =>
      -- The head is kept or left out on both sides, so the later statements settle the rest.
      simp only [of_cons_ok decided, ih]
      cases stopped : (of request later).failure <;> cases answer <;> simp [stopped]

/-- A survey comes to its end exactly where every statement can be decided. -/
theorem failure_eq_none_iff {statements : List Statement} :
    (of request statements).failure = none ↔
      ∀ statement ∈ statements, ∃ answer, statement.applies request = .ok answer := by
  induction statements with
  | nil => simp [of]
  | cons statement later ih =>
    rw [List.forall_mem_cons]
    cases decided : statement.applies request with
    | error fault => simp [of_cons_error decided]
    | ok answer => simpa [of_cons_ok decided] using ih

/-- A survey that came to its end found the applying statements, in their order. -/
theorem applying_of_failure_eq_none {statements : List Statement}
    (complete : (of request statements).failure = none) :
    (of request statements).applying =
      statements.filter fun statement => decide (statement.Applies request) := by
  induction statements with
  | nil => rfl
  | cons statement later ih =>
    have decidable := failure_eq_none_iff.mp complete
    obtain ⟨answer, decided⟩ := decidable statement List.mem_cons_self
    have rest := ih (failure_eq_none_iff.mpr fun other member =>
      decidable other (List.mem_cons_of_mem _ member))
    have applies : statement.Applies request ↔ answer = true := by
      rw [← Statement.applies_eq_true_iff, decided, Except.ok.injEq]
    rw [of_cons_ok decided, rest]
    cases answer <;> simp [applies]

/-- The statements that a complete survey found are those that apply. -/
theorem mem_applying_iff {statements : List Statement} {statement : Statement}
    (complete : (of request statements).failure = none) :
    statement ∈ (of request statements).applying ↔
      statement ∈ statements ∧ statement.Applies request := by
  simp [applying_of_failure_eq_none complete]

/-- A survey stops at a statement that cannot be decided, behind statements that can. -/
theorem failure_eq_some_iff {statements : List Statement} {statement : Statement}
    {fault : Condition.Fault} :
    (of request statements).failure = some (statement, fault) ↔
      ∃ earlier later, statements = earlier ++ statement :: later ∧
        (of request earlier).failure = none ∧ statement.applies request = .error fault := by
  constructor
  · intro stopped
    induction statements with
    | nil => cases stopped
    | cons first later ih =>
      cases decided : first.applies request with
      | error found =>
        rw [of_cons_error decided] at stopped
        cases stopped
        exact ⟨[], later, rfl, rfl, decided⟩
      | ok answer =>
        rw [of_cons_ok decided] at stopped
        obtain ⟨earlier, behind, rfl, complete, undecided⟩ := ih stopped
        exact ⟨first :: earlier, behind, rfl, by rwa [of_cons_ok decided], undecided⟩
  · rintro ⟨earlier, later, rfl, complete, undecided⟩
    rw [of_append, complete]
    simp [of_cons_error undecided]

end AccessPolicy.Survey

namespace AccessPolicy.Policy.Document

/-- A document has an outcome exactly where its survey comes to its end. -/
theorem evaluate_eq_ok_iff {document : Document} {request : Request} {outcome : Outcome} :
    document.evaluate request = .ok outcome ↔
      (document.survey request).failure = none ∧ outcome = (document.survey request).outcome := by
  unfold evaluate
  cases (document.survey request).failure <;> simp [eq_comm]

/-- A document has an error exactly where its survey stops. -/
theorem evaluate_eq_error_iff {document : Document} {request : Request}
    {error : EvaluationError} :
    document.evaluate request = .error error ↔
      ∃ statement fault, (document.survey request).failure = some (statement, fault) ∧
        error = fault.inStatement statement := by
  unfold evaluate
  cases failure : (document.survey request).failure with
  | none => simp
  | some stopped =>
    obtain ⟨statement, fault⟩ := stopped
    simp only [Except.error.injEq, Option.some.injEq, Prod.mk.injEq]
    constructor
    · rintro rfl
      exact ⟨statement, fault, ⟨rfl, rfl⟩, rfl⟩
    · rintro ⟨_, _, ⟨rfl, rfl⟩, rfl⟩
      rfl

end AccessPolicy.Policy.Document
