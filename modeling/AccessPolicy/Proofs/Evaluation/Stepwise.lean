import AccessPolicy.Proofs.Evaluation.Survey
import AccessPolicy.Proofs.Paired

/-! Evaluations in step: statements that answer alike one by one lead to the same result. -/

namespace AccessPolicy

open Policy (Statement Document Effect)

namespace Survey

/-- Statements of the same identifiers one by one have the same identifiers together. -/
theorem sidsOf_eq_of_forall₂ {same : Statement → Statement → Prop}
    (sid : ∀ statement other, same statement other → statement.sid = other.sid)
    {first second : List Statement} (all : List.Forall₂ same first second) :
    sidsOf first = sidsOf second := by
  -- The identifiers are taken from a list that is the same for both.
  have named : first.map Statement.sid = second.map Statement.sid :=
    forall₂_map_eq_iff.mp (all.imp sid)
  have kept (statements : List Statement) :
      sidsOf statements = Text.sortedSet ((statements.map Statement.sid).filterMap filled?) := by
    rw [List.filterMap_map]
    rfl
  rw [kept, kept, named]

/-- Applying statements of the same effects and identifiers one by one have the same outcome. -/
theorem outcome_eq_of_forall₂ {same : Statement → Statement → Prop}
    (effect : ∀ statement other, same statement other → statement.effect = other.effect)
    (sid : ∀ statement other, same statement other → statement.sid = other.sid)
    {survey again : Survey} (all : List.Forall₂ same survey.applying again.applying) :
    survey.outcome = again.outcome := by
  -- Nothing but effects and identifiers of the applying statements counts.
  have withEffect (effect' : Effect) :
      List.Forall₂ same (survey.withEffect effect') (again.withEffect effect') := by
    refine List.rel_filter (fun statement other alike => ?_) all
    simp [effect statement other alike]
  have isEmpty (effect' : Effect) :
      (survey.withEffect effect').isEmpty = (again.withEffect effect').isEmpty := by
    have long := (withEffect effect').length_eq
    rw [Bool.eq_iff_iff, List.isEmpty_iff, List.isEmpty_iff, ← List.length_eq_zero_iff,
      ← List.length_eq_zero_iff, long]
  have sids (effect' : Effect) :
      sidsOf (survey.withEffect effect') = sidsOf (again.withEffect effect') :=
    sidsOf_eq_of_forall₂ sid (withEffect effect')
  simp only [outcome, isEmpty, sids]

end Survey

/-- A statement answers a request as another one of the same heading answers another request. -/
structure Policy.Statement.AnswersLike (request again : Request) (statement other : Statement) :
    Prop where
  index : statement.index = other.index
  sid : statement.sid = other.sid
  effect : statement.effect = other.effect
  answer : statement.applies request = other.applies again

namespace Survey

variable {request again : Request} {first second : List Statement}

/-- Surveys of statements that answer alike find such statements, and stop at such a statement. -/
theorem of_answersLike (all : List.Forall₂ (Statement.AnswersLike request again) first second) :
    List.Forall₂ (Statement.AnswersLike request again) (of request first).applying
        (of again second).applying ∧
      Option.Rel (fun stopped other => stopped.1.AnswersLike request again other.1 ∧
        stopped.2 = other.2) (of request first).failure (of again second).failure := by
  induction all with
  | nil => exact ⟨.nil, .none⟩
  | @cons statement other later rest here _ ih =>
    obtain ⟨applying, failure⟩ := ih
    cases decided : statement.applies request with
    | error fault =>
      have decidedToo : other.applies again = .error fault := here.answer.symm.trans decided
      rw [of_cons_error decided, of_cons_error decidedToo]
      exact ⟨.nil, .some ⟨here, rfl⟩⟩
    | ok answer =>
      have decidedToo : other.applies again = .ok answer := here.answer.symm.trans decided
      rw [of_cons_ok decided, of_cons_ok decidedToo]
      -- Both surveys keep their statement, or both leave it out.
      cases answer with
      | true => exact ⟨.cons here applying, failure⟩
      | false => exact ⟨applying, failure⟩

end Survey

/-- A fault leads to the same error in all statements of one place and identifier. -/
theorem Condition.Fault.inStatement_congr {statement other : Statement}
    (index : statement.index = other.index) (sid : statement.sid = other.sid)
    (fault : Condition.Fault) : fault.inStatement statement = fault.inStatement other := by
  cases fault with
  | unsettledOperator raw => simp only [inStatement, index, sid]
  | noExpectedValue => rfl
  | presenceOperator => rfl

/-- Documents whose statements answer two requests alike lead to the same outcome or error. -/
theorem Policy.Document.evaluate_eq_of_answersLike {first second : Document}
    {request again : Request}
    (all : List.Forall₂ (Statement.AnswersLike request again) first.statements
      second.statements) :
    first.evaluate request = second.evaluate again := by
  obtain ⟨applying, failure⟩ := Survey.of_answersLike all
  have outcome : (first.survey request).outcome = (second.survey again).outcome :=
    Survey.outcome_eq_of_forall₂ (fun _ _ alike => alike.effect) (fun _ _ alike => alike.sid)
      applying
  unfold evaluate
  rw [outcome]
  unfold survey
  -- Either neither survey stops, or both do, with one fault in statements of one heading.
  cases stopped : (Survey.of request first.statements).failure with
  | none =>
    rw [stopped, rel_none_left_iff] at failure
    rw [failure]
  | some found =>
    obtain ⟨statement, fault⟩ := found
    rw [stopped, rel_some_left_iff] at failure
    obtain ⟨⟨other, faultToo⟩, stoppedToo, alike, same⟩ := failure
    obtain rfl : fault = faultToo := same
    rw [stoppedToo]
    exact congrArg Except.error (Condition.Fault.inStatement_congr alike.index alike.sid fault)

end AccessPolicy
