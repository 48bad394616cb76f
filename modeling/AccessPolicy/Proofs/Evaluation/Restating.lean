import AccessPolicy.Proofs.Evaluation.Decision
import AccessPolicy.Proofs.Evaluation.Refusal
import AccessPolicy.Proofs.Evaluation.Stepwise
import AccessPolicy.Proofs.Policy.Restating

/-! Documents that say the same in other words decide all requests alike. -/

namespace AccessPolicy

open Policy (Statement Document Selection)

/-- Selections that say the same in other words admit the same. -/
theorem Policy.Selection.Restates.admits_iff {α : Type} {same : α → α → Prop}
    {selection other : Selection α} {fits : α → Prop} (restates : selection.Restates same other)
    (agree : ∀ named others, same named others → (fits named ↔ fits others)) :
    selection.Admits fits ↔ other.Admits fits := by
  cases restates with
  | only alike => exact agree _ _ alike
  | allBut alike => exact not_congr (agree _ _ alike)

/-- Blocks that say the same in other words name the same principals. -/
theorem PrincipalBlock.Restates.names_iff {block other : PrincipalBlock}
    (restates : block.Restates other) (principal : Principal) :
    block.Names principal ↔ other.Names principal := by
  cases restates with
  | everyone => rfl
  | listed each =>
    exact or_congr (each .aws _)
      (exists_congr fun pattern => and_congr_left fun _ => each principal.kind pattern)

namespace Policy.Statement

variable {statement other : Statement} {request : Request}

/-- Statements that say the same in other words concern the same requests. -/
theorem Restates.concerns_iff (restates : statement.Restates other) :
    statement.Concerns request ↔ other.Concerns request := by
  have action : statement.action.Admits (fun patterns =>
      ∃ pattern ∈ patterns, Glob.acceptsAnyCase pattern request.action = true) ↔ _ :=
    restates.action.admits_iff fun _ _ same =>
      exists_congr fun pattern => and_congr_left fun _ => same pattern
  have resource : statement.resource.Admits (fun patterns =>
      ∃ pattern ∈ patterns, Arn.acceptsResource pattern request.resource = true) ↔ _ :=
    restates.resource.admits_iff fun _ _ same =>
      exists_congr fun pattern => and_congr_left fun _ => same pattern
  have principal (named : Principal) : (∀ selection, statement.principal = some selection →
      selection.Admits fun block => block.Names named) ↔
        ∀ selection, other.principal = some selection →
          selection.Admits fun block => block.Names named := by
    -- Either both statements have the element, or neither has.
    have related := restates.principal
    generalize statement.principal = left at related ⊢
    generalize other.principal = right at related ⊢
    cases related with
    | none => simp
    | some same =>
      simp only [Option.some.injEq, forall_eq']
      exact same.admits_iff fun _ _ blocks => blocks.names_iff named
  constructor
  · intro about
    exact ⟨action.mp about.action, resource.mp about.resource,
      fun named there => (principal named).mp (about.principal named there)⟩
  · intro about
    exact ⟨action.mpr about.action, resource.mpr about.resource,
      fun named there => (principal named).mpr (about.principal named there)⟩

/-- Statements that say the same in other words apply to the same requests. -/
theorem Restates.applies_iff (restates : statement.Restates other) :
    statement.Applies request ↔ other.Applies request := by
  have answers {entry again : Condition.Entry} (alike : entry.Alike again) :
      entry.evaluate request.context = again.evaluate request.context :=
    alike.evaluate_eq (.refl _)
  constructor
  · intro ⟨about, holds⟩
    refine ⟨restates.concerns_iff.mp about, fun entry inside => ?_⟩
    obtain ⟨old, there, alike⟩ := restates.condition.exists_of_mem_back inside
    exact answers alike ▸ holds old there
  · intro ⟨about, holds⟩
    refine ⟨restates.concerns_iff.mpr about, fun entry inside => ?_⟩
    obtain ⟨again, there, alike⟩ := restates.condition.exists_of_mem inside
    exact answers alike ▸ holds again there

/-- Statements that say the same in other words are unsettled for the same requests. -/
theorem Restates.unsettled_iff (restates : statement.Restates other) :
    statement.Unsettled request ↔ other.Unsettled request := by
  refine and_congr restates.concerns_iff ⟨?_, ?_⟩
  · intro ⟨entry, inside, unsettled⟩
    obtain ⟨again, there, alike⟩ := restates.condition.exists_of_mem inside
    exact ⟨again, there, alike.operator ▸ unsettled⟩
  · intro ⟨entry, inside, unsettled⟩
    obtain ⟨old, there, alike⟩ := restates.condition.exists_of_mem_back inside
    exact ⟨old, there, alike.operator ▸ unsettled⟩

/-- Two lawful statements that say the same have one answer, or both have no settled meaning. -/
theorem Restates.applies_cases (restates : statement.Restates other) (lawful : statement.Lawful) :
    (∃ answer, statement.applies request = .ok answer ∧ other.applies request = .ok answer) ∨
      ∃ raw again, statement.applies request = .error (.unsettledOperator raw) ∧
        other.applies request = .error (.unsettledOperator again) := by
  have suitable := lawful.condition
  have suitableToo := (restates.lawful lawful).condition
  cases decided : statement.applies request with
  | ok answer =>
    have settled : ¬ other.Unsettled request :=
      restates.unsettled_iff.not.mp ((decided_iff suitable).mp ⟨answer, decided⟩)
    obtain ⟨again, decidedToo⟩ := (decided_iff suitableToo).mpr settled
    have same : answer = true ↔ again = true := by
      rw [← Except.ok.injEq, ← decided, applies_eq_true_iff, restates.applies_iff,
        ← applies_eq_true_iff, decidedToo, Except.ok.injEq]
    exact Or.inl ⟨answer, rfl, Bool.eq_iff_iff.mpr same ▸ decidedToo⟩
  | error fault =>
    cases decidedToo : other.applies request with
    | ok again =>
      -- What is decided of the one statement would be decided of the other.
      have settled :=
        restates.unsettled_iff.not.mpr ((decided_iff suitableToo).mp ⟨again, decidedToo⟩)
      obtain ⟨answer, contrary⟩ := (decided_iff suitable).mpr settled
      cases decided.symm.trans contrary
    | error faultToo =>
      obtain ⟨-, entry, -, rfl⟩ := (applies_eq_error_iff suitable).mp decided
      obtain ⟨-, entryToo, -, rfl⟩ := (applies_eq_error_iff suitableToo).mp decidedToo
      exact Or.inr ⟨_, _, rfl, rfl⟩

end Policy.Statement

namespace Survey

variable {request : Request} {first second : List Statement}

/-- Surveys of statements that say the same find the same, and stop at the same statement. -/
theorem of_restates (all : List.Forall₂ Statement.Restates first second)
    (lawful : ∀ statement ∈ first, statement.Lawful) :
    (of request first).failure = none ∧ (of request second).failure = none ∧
        List.Forall₂ Statement.Restates (of request first).applying (of request second).applying ∨
      ∃ statement other raw again, statement ∈ first ∧ statement.Restates other ∧
        (of request first).failure = some (statement, .unsettledOperator raw) ∧
        (of request second).failure = some (other, .unsettledOperator again) := by
  induction all with
  | nil => exact Or.inl ⟨rfl, rfl, .nil⟩
  | @cons statement other later rest here _ ih =>
    obtain ⟨lawfulFirst, lawfulLater⟩ := List.forall_mem_cons.mp lawful
    rcases here.applies_cases lawfulFirst with ⟨answer, decided, decidedToo⟩ |
      ⟨raw, again, undecided, undecidedToo⟩
    · rw [of_cons_ok decided, of_cons_ok decidedToo]
      -- The later statements settle whether the survey stops, and this one may be kept.
      rcases ih lawfulLater with ⟨complete, completeToo, applying⟩ |
        ⟨stopped, stoppedToo, raw, again, inside, same, failure, failureToo⟩
      · refine Or.inl ⟨complete, completeToo, ?_⟩
        cases answer with
        | true => exact .cons here applying
        | false => exact applying
      · exact Or.inr ⟨stopped, stoppedToo, raw, again, List.mem_cons_of_mem _ inside, same, failure,
          failureToo⟩
    · rw [of_cons_error undecided, of_cons_error undecidedToo]
      exact Or.inr ⟨statement, other, raw, again, List.mem_cons_self, here, rfl, rfl⟩

end Survey

namespace Policy.Document

/-- Two documents decide a request alike, or both refuse it for one and the same statement. -/
inductive DecidesLike (document other : Document) (request : Request) : Prop where
  | decided {outcome : Outcome} (first : document.evaluate request = .ok outcome)
      (second : other.evaluate request = .ok outcome) : DecidesLike document other request
  | refused {statement : Statement} {error again : EvaluationError}
      (inside : statement ∈ document.statements) (first : document.evaluate request = .error error)
      (second : other.evaluate request = .error again)
      (kind : error.fault.kind = .unsupportedCondition)
      (kindToo : again.fault.kind = .unsupportedCondition)
      (place : error.place = ⟨some statement.index, statement.sid⟩)
      (placeToo : again.place = ⟨some statement.index, statement.sid⟩) :
      DecidesLike document other request

/-- A lawful document decides like one that says the same in other words. -/
theorem Restates.decidesLike {document other : Document} (restates : document.Restates other)
    (lawful : document.Lawful) (request : Request) : document.DecidesLike other request := by
  rcases Survey.of_restates restates.statements lawful.statements with
    ⟨complete, completeToo, applying⟩ |
      ⟨statement, again, raw, rawToo, inside, same, failure, failureToo⟩
  · have outcome := Survey.outcome_eq_of_forall₂ (fun _ _ same => same.effect)
      (fun _ _ same => same.sid) applying
    exact .decided (evaluate_eq_ok_iff.mpr ⟨complete, rfl⟩)
      (evaluate_eq_ok_iff.mpr ⟨completeToo, outcome⟩)
  · refine .refused inside (evaluate_eq_error_iff.mpr ⟨statement, _, failure, rfl⟩)
      (evaluate_eq_error_iff.mpr ⟨again, _, failureToo, rfl⟩) rfl rfl rfl ?_
    rw [same.index, same.sid]
    rfl

end Policy.Document

end AccessPolicy
