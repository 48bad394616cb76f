import AccessPolicy.Proofs.Evaluation.Survey
import AccessPolicy.Proofs.Result
import AccessPolicy.Proofs.Text.Order

/-! What outcomes say: the applying statements decide, a denial among them before all others. -/

namespace AccessPolicy

open Policy (Statement Effect)

/-- The decision that an applying statement with an effect calls for. -/
def Policy.Effect.decision : Effect → Decision
  -- No effect calls for an implicit denial.
  | .allow => .allow
  | .deny => .explicitDeny

/-- How much a decision weighs against others. -/
def Decision.rank : Decision → Nat
  -- A denial outweighs a permission, and both outweigh what no statement calls for.
  | .implicitDeny => 0
  | .allow => 1
  | .explicitDeny => 2

/-- Decisions of the same weight are the same. -/
theorem Decision.eq_of_rank_eq {decision other : Decision}
    (same : decision.rank = other.rank) : decision = other := by
  cases decision <;> cases other <;> first | rfl | cases same

/-- Outcomes with identifiers in order are settled by the decision and the identifiers in them. -/
theorem Outcome.eq_of_increasing {outcome other : Outcome}
    (ordered : outcome.sids.Pairwise (· < ·)) (orderedToo : other.sids.Pairwise (· < ·))
    (decision : outcome.decision = other.decision)
    (sids : ∀ sid, sid ∈ outcome.sids ↔ sid ∈ other.sids) : outcome = other := by
  have listed : outcome.sids = other.sids := Text.eq_of_increasing ordered orderedToo sids
  calc outcome = ⟨outcome.decision, outcome.sids⟩ := rfl
    _ = ⟨other.decision, other.sids⟩ := by rw [decision, listed]

/-- An identifier that is kept is there, and is not empty. -/
theorem filled?_eq_some_iff {text : Option String} {sid : String} :
    filled? text = some sid ↔ text = some sid ∧ sid ≠ "" := by
  simp [filled?, Option.filter_eq_some_iff]

namespace Survey

/-- The identifiers of statements are their identifiers that are not empty. -/
theorem mem_sidsOf {sid : String} {statements : List Statement} :
    sid ∈ sidsOf statements ↔
      sid ≠ "" ∧ ∃ statement ∈ statements, statement.sid = some sid := by
  simp only [sidsOf, Text.mem_sortedSet, List.mem_filterMap, filled?_eq_some_iff]
  constructor
  · rintro ⟨statement, member, named, filled⟩
    exact ⟨filled, statement, member, named⟩
  · rintro ⟨filled, statement, member, named⟩
    exact ⟨statement, member, named, filled⟩

/-- The statements with an effect are the applying ones that carry it. -/
theorem mem_withEffect {survey : Survey} {effect : Effect} {statement : Statement} :
    statement ∈ survey.withEffect effect ↔
      statement ∈ survey.applying ∧ statement.effect = effect := by
  simp [withEffect]

/-- An outcome is one of three, as the effects of the applying statements have it. -/
theorem outcome_cases (survey : Survey) :
    survey.outcome = ⟨.explicitDeny, sidsOf (survey.withEffect .deny)⟩ ∧
        (∃ statement ∈ survey.applying, statement.effect = .deny) ∨
      survey.outcome = ⟨.allow, sidsOf (survey.withEffect .allow)⟩ ∧
        (∀ statement ∈ survey.applying, statement.effect = .allow) ∧
        (∃ statement ∈ survey.applying, statement.effect = .allow) ∨
      survey.outcome = ⟨.implicitDeny, []⟩ ∧ survey.applying = [] := by
  have nonempty {effect : Effect} : (survey.withEffect effect).isEmpty = false ↔
      ∃ statement ∈ survey.applying, statement.effect = effect := by
    rw [List.isEmpty_eq_false_iff_exists_mem]
    simp only [mem_withEffect]
  unfold outcome
  cases denied : (survey.withEffect .deny).isEmpty with
  | false => exact Or.inl ⟨rfl, nonempty.mp denied⟩
  | true =>
    -- Without a denial every applying statement allows, since there are two effects only.
    have allowing : ∀ statement ∈ survey.applying, statement.effect = .allow := by
      intro statement member
      cases effect : statement.effect with
      | allow => rfl
      | deny => simp [nonempty.mpr ⟨statement, member, effect⟩] at denied
    cases allowed : (survey.withEffect .allow).isEmpty with
    | false => exact Or.inr (Or.inl ⟨rfl, allowing, nonempty.mp allowed⟩)
    | true =>
      refine Or.inr (Or.inr ⟨rfl, List.eq_nil_iff_forall_not_mem.mpr fun statement member => ?_⟩)
      simp [nonempty.mpr ⟨statement, member, allowing statement member⟩] at allowed

/-- A denial is explicit exactly where an applying statement denies. -/
theorem decision_eq_explicitDeny_iff {survey : Survey} :
    survey.outcome.decision = .explicitDeny ↔
      ∃ statement ∈ survey.applying, statement.effect = .deny := by
  rcases outcome_cases survey with ⟨same, denied⟩ | ⟨same, allowing, -⟩ | ⟨same, empty⟩
  · simp [same, denied]
  · rw [same]
    refine iff_of_false (by simp) fun ⟨statement, member, deny⟩ => ?_
    simp [allowing statement member] at deny
  · simp [same, empty]

/-- A request is allowed exactly where a statement allows it and none denies it. -/
theorem decision_eq_allow_iff {survey : Survey} :
    survey.outcome.decision = .allow ↔
      (¬ ∃ statement ∈ survey.applying, statement.effect = .deny) ∧
        ∃ statement ∈ survey.applying, statement.effect = .allow := by
  rcases outcome_cases survey with ⟨same, denied⟩ | ⟨same, allowing, allowed⟩ | ⟨same, empty⟩
  · simp [same, denied]
  · rw [same]
    refine iff_of_true rfl ⟨fun ⟨statement, member, deny⟩ => ?_, allowed⟩
    simp [allowing statement member] at deny
  · simp [same, empty]

/-- A denial is implicit exactly where no statement applies. -/
theorem decision_eq_implicitDeny_iff {survey : Survey} :
    survey.outcome.decision = .implicitDeny ↔ survey.applying = [] := by
  rcases outcome_cases survey with ⟨same, _, member, -⟩ | ⟨same, -, _, member, -⟩ | ⟨same, empty⟩
  · simp [same, List.ne_nil_of_mem member]
  · simp [same, List.ne_nil_of_mem member]
  · simp [same, empty]

/-- The identifiers of an outcome are those of the applying statements behind its decision. -/
theorem mem_sids_outcome {survey : Survey} {sid : String} :
    sid ∈ survey.outcome.sids ↔
      sid ≠ "" ∧ ∃ statement ∈ survey.applying,
        statement.effect.decision = survey.outcome.decision ∧ statement.sid = some sid := by
  have denies {effect : Effect} : effect.decision = .explicitDeny ↔ effect = .deny := by
    cases effect <;> simp [Effect.decision]
  have allows {effect : Effect} : effect.decision = .allow ↔ effect = .allow := by
    cases effect <;> simp [Effect.decision]
  rcases outcome_cases survey with ⟨same, -⟩ | ⟨same, -⟩ | ⟨same, empty⟩
  · simp [same, mem_sidsOf, mem_withEffect, denies, and_assoc]
  · simp [same, mem_sidsOf, mem_withEffect, allows, and_assoc]
  · simp [same, empty]

/-- The identifiers of an outcome stand in order, each once. -/
theorem sids_outcome_increasing (survey : Survey) :
    survey.outcome.sids.Pairwise (· < ·) := by
  rcases outcome_cases survey with ⟨same, -⟩ | ⟨same, -⟩ | ⟨same, -⟩
  · simpa [same, sidsOf] using Text.sortedSet_increasing _
  · simpa [same, sidsOf] using Text.sortedSet_increasing _
  · simp [same]

/-- No applying statement calls for a decision that outweighs the one of the outcome. -/
theorem rank_le_outcome {survey : Survey} {statement : Statement}
    (member : statement ∈ survey.applying) :
    statement.effect.decision.rank ≤ survey.outcome.decision.rank := by
  rcases outcome_cases survey with ⟨same, -⟩ | ⟨same, allowing, -⟩ | ⟨-, empty⟩
  · rw [same]
    cases statement.effect <;> simp [Effect.decision, Decision.rank]
  · rw [same, allowing statement member]
    exact Nat.le_refl _
  · simp [empty] at member

/-- An applying statement calls for the decision of the outcome, unless it is an implicit denial. -/
theorem called_outcome (survey : Survey) :
    survey.outcome.decision = .implicitDeny ∨
      ∃ statement ∈ survey.applying, statement.effect.decision = survey.outcome.decision := by
  rcases outcome_cases survey with ⟨same, statement, member, deny⟩ |
    ⟨same, -, statement, member, allow⟩ | ⟨same, -⟩
  · exact Or.inr ⟨statement, member, by rw [same, deny, Effect.decision]⟩
  · exact Or.inr ⟨statement, member, by rw [same, allow, Effect.decision]⟩
  · exact Or.inl (by rw [same])

/-- The decision of an outcome is the weightiest one that applying statements call for. -/
theorem decision_eq_of_weightiest {survey : Survey} {decision : Decision}
    (above : ∀ statement ∈ survey.applying, statement.effect.decision.rank ≤ decision.rank)
    (called : decision = .implicitDeny ∨
      ∃ statement ∈ survey.applying, statement.effect.decision = decision) :
    survey.outcome.decision = decision := by
  apply Decision.eq_of_rank_eq
  apply Nat.le_antisymm
  · rcases called_outcome survey with idle | ⟨statement, member, calls⟩
    · rw [idle]
      exact Nat.zero_le _
    · rw [← calls]
      exact above statement member
  · rcases called with rfl | ⟨statement, member, rfl⟩
    · exact Nat.zero_le _
    · exact rank_le_outcome member

end Survey

/--
A document decides by the statements that apply to a request, where denials outweigh permissions.

The statements are found in their order and each once, and the identifiers that are not empty are
those of the statements behind the decision.
-/
theorem Policy.Document.evaluate_decides {document : Document} {request : Request}
    {outcome : Outcome} (decided : document.evaluate request = .ok outcome) :
    (document.survey request).failure = none ∧
    (document.survey request).applying =
      document.statements.filter (fun statement => decide (statement.Applies request)) ∧
    (outcome.decision = .explicitDeny ↔
      ∃ statement ∈ document.statements, statement.Applies request ∧ statement.effect = .deny) ∧
    (outcome.decision = .allow ↔
      (¬ ∃ statement ∈ document.statements,
        statement.Applies request ∧ statement.effect = .deny) ∧
      ∃ statement ∈ document.statements, statement.Applies request ∧ statement.effect = .allow) ∧
    (outcome.decision = .implicitDeny ↔
      ∀ statement ∈ document.statements, ¬ statement.Applies request) ∧
    (∀ sid, sid ∈ outcome.sids ↔
      sid ≠ "" ∧ ∃ statement ∈ document.statements, statement.Applies request ∧
        statement.effect.decision = outcome.decision ∧ statement.sid = some sid) ∧
    outcome.sids.Pairwise (· < ·) := by
  obtain ⟨complete, rfl⟩ := evaluate_eq_ok_iff.mp decided
  -- An applying statement is one of the document's that applies.
  have member {statement : Statement} : statement ∈ (document.survey request).applying ↔
      statement ∈ document.statements ∧ statement.Applies request :=
    Survey.mem_applying_iff complete
  refine ⟨complete, Survey.applying_of_failure_eq_none complete, ?_, ?_, ?_, fun sid => ?_, Survey.sids_outcome_increasing _⟩
  · simp only [Survey.decision_eq_explicitDeny_iff, member, and_assoc]
  · simp only [Survey.decision_eq_allow_iff, member, and_assoc]
  · simp only [Survey.decision_eq_implicitDeny_iff, List.eq_nil_iff_forall_not_mem, member,
      not_and]
  · simp only [Survey.mem_sids_outcome, member, and_assoc]

/-- A policy that grants reading, and denies whatever lies outside of one bucket. -/
def Policy.guardedDocument : Policy.Document :=
  -- The last statement leaves out the account that makes the request.
  ⟨"2012-10-17", none,
    [⟨0, some "Read", .allow, .only ["s3:Get*"], .only ["*"], none, none⟩,
      ⟨1, some "Outside", .deny, .only ["s3:*"], .allBut ["arn:aws:s3:::inside/*"], none, none⟩,
      ⟨2, some "", .deny, .allBut ["s3:List*"], .only ["*"],
        some (.only (.listed ⟨["123456789012"], [], [], []⟩)), none⟩,
      ⟨3, some "Others", .deny, .only ["*"], .only ["*"],
        some (.allBut (.listed ⟨["123456789012"], [], [], []⟩)), none⟩]⟩

/-- A request of a user of that account for an object in another bucket. -/
def guardedRequest : Request :=
  -- No condition asks about the circumstances.
  ⟨"s3:GetObject", "arn:aws:s3:::outside/key",
    some ⟨.aws, "arn:aws:iam::123456789012:user/reader"⟩, .empty⟩

/-- The request is denied by the second statement, and by one without an identifier. -/
theorem Policy.evaluate_guarded :
    guardedDocument.evaluate guardedRequest = .ok ⟨.explicitDeny, ["Outside"]⟩ ∧
      ∃ statement ∈ guardedDocument.statements,
        statement.Applies guardedRequest ∧ statement.effect = .deny := by
  have decided : guardedDocument.evaluate guardedRequest = .ok ⟨.explicitDeny, ["Outside"]⟩ :=
    eq_ok_of_toOption (by decide +kernel)
  exact ⟨decided, (Document.evaluate_decides decided).2.2.1.mp rfl⟩

end AccessPolicy
