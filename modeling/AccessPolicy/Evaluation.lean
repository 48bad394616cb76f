import AccessPolicy.Log.Event
import AccessPolicy.Policy.Document
import AccessPolicy.Report
import AccessPolicy.Request

/-! Evaluation of policies against requests: a denial outweighs a permission, and nothing denies. -/

namespace AccessPolicy

/-- What a policy decides about a request. -/
inductive Decision where
  | allow
  | explicitDeny
  | implicitDeny
  deriving Repr, DecidableEq

/-- The name of a decision. -/
def Decision.name : Decision → String
  -- A denial without a statement behind it is implicit.
  | .allow => "Allow"
  | .explicitDeny => "ExplicitDeny"
  | .implicitDeny => "ImplicitDeny"

/-- A decision with the identifiers of the statements behind it, in order and each once. -/
structure Outcome where
  decision : Decision
  sids : List String
  deriving Repr, DecidableEq

namespace Outcome

/-- Whether the request is allowed. -/
def isAllowed (outcome : Outcome) : Bool :=
  -- Both kinds of denial refuse it.
  outcome.decision = .allow

/-- The identifier behind the decision, if there is exactly one. -/
def sid? (outcome : Outcome) : Option String :=
  -- Several identifiers name no single statement.
  match outcome.sids with
  | [sid] => some sid
  | _ => none

/-- The decision with the identifiers behind it. -/
def text (outcome : Outcome) : String :=
  -- Without identifiers the decision stands alone.
  if outcome.sids.isEmpty then outcome.decision.name
  else outcome.decision.name ++ " (" ++ Text.joined ", " outcome.sids ++ ")"

end Outcome

/-- Why an evaluation yields no decision. -/
inductive EvaluationFault where
  | unsupportedOperator (raw : String) (detail : Option String)
  | missingValue (key : String)
  | failed (reason : String)
  deriving Repr, DecidableEq

namespace EvaluationFault

/-- The kind of error that a fault is. -/
def kind : EvaluationFault → ErrorKind
  -- Two kinds of faults are told apart from all others.
  | .unsupportedOperator _ _ => .unsupportedCondition
  | .missingValue _ => .missingContextValue
  | .failed _ => .evaluationError

/-- The wording of a fault without its location. -/
def reason : EvaluationFault → String
  -- An empty detail is left out.
  | .unsupportedOperator raw detail =>
    "Unsupported condition operator: " ++ raw
      ++ ((filled? detail).map fun detail => " (" ++ detail ++ ")").getD ""
  | .missingValue key => "Missing value for context key: " ++ key
  | .failed reason => reason

/-- The fault of a set operator on a negated operator. -/
def unsettled (raw : String) : EvaluationFault :=
  -- Nothing says whether the negation is about one value or about all of them.
  .unsupportedOperator raw (some "set operators cannot be combined with negated operators")

end EvaluationFault

/-- A fault with the statement in which it arose. -/
structure EvaluationError where
  fault : EvaluationFault
  place : StatementPlace
  deriving Repr, DecidableEq

namespace EvaluationError

/-- The statement to which the error belongs. -/
def location (error : EvaluationError) : String :=
  -- Errors of evaluations lead to no element of a statement.
  locationText error.place []

/-- The whole wording of the error. -/
def message (error : EvaluationError) : String :=
  -- The location comes first.
  located error.location error.fault.reason

/-- The error with another statement as its place. -/
def placed (error : EvaluationError) (place : StatementPlace) : EvaluationError :=
  -- The fault stays what it is.
  { error with place }

end EvaluationError

namespace Condition.Fault

/-- The name of a fault that no evaluation is prepared for. -/
def kindName : Condition.Fault → String
  -- Lists of values that are too short, and values that do not fit.
  | .unsettledOperator _ => "UnsupportedConditionError"
  | .noExpectedValue => "IndexError"
  | .presenceOperator => "ValueError"

/-- The wording of a fault. -/
def message : Condition.Fault → String
  -- The first is the one that evaluations are prepared for.
  | .unsettledOperator raw => (EvaluationFault.unsettled raw).reason
  | .noExpectedValue => "tuple index out of range"
  | .presenceOperator => "Null is evaluated on key presence, not values"

/-- The error that a fault in a statement is to an evaluation. -/
def inStatement (fault : Condition.Fault) (statement : Policy.Statement) : EvaluationError :=
  -- Faults that no evaluation is prepared for are reported without their statement.
  match fault with
  | .unsettledOperator raw =>
    ⟨.unsettled raw, ⟨some statement.index, statement.sid⟩⟩
  | fault =>
    ⟨.failed ("Policy evaluation failed unexpectedly: " ++ fault.kindName ++ ": " ++ fault.message),
      ⟨none, none⟩⟩

end Condition.Fault

namespace Policy.Statement

/-- Whether the action element of a statement covers an action. -/
def coversAction (statement : Statement) (action : String) : Bool :=
  -- Letter case does not count in actions.
  statement.action.covers fun patterns => patterns.any fun pattern =>
    Glob.acceptsAnyCase pattern action

/-- Whether the resource element of a statement covers a resource. -/
def coversResource (statement : Statement) (resource : String) : Bool :=
  -- One pattern that matches is enough.
  statement.resource.covers fun patterns => patterns.any fun pattern =>
    Arn.acceptsResource pattern resource

/-- Whether the principal element of a statement covers a principal. -/
def coversPrincipal (statement : Statement) (principal : Principal) : Bool :=
  -- Statements without the element cover everyone.
  match statement.principal with
  | none => true
  | some selection => selection.covers fun block => block.accepts principal

/-- Whether the principal of a request does not exclude a statement. -/
def admitsPrincipal (statement : Statement) (principal : Option Principal) : Bool :=
  -- Without a principal the policy is read as one of an identity.
  match principal with
  | none => true
  | some principal => statement.coversPrincipal principal

/-- Whether a statement is about a request, its condition left aside. -/
def concerns (statement : Statement) (request : Request) : Bool :=
  -- Action, resource and principal all have to be covered.
  statement.coversAction request.action && statement.coversResource request.resource
    && statement.admitsPrincipal request.principal

/-- Whether a statement applies to a request. -/
def applies (statement : Statement) (request : Request) : Except Condition.Fault Bool :=
  -- The condition is evaluated only where all else is covered.
  if statement.concerns request then
    match statement.condition with
    | none => .ok true
    | some entries => Condition.evaluateBlock entries request.context
  else .ok false

end Policy.Statement

/-- The statements that apply, up to the first that cannot be decided, and the fault of that one. -/
structure Survey where
  applying : List Policy.Statement
  failure : Option (Policy.Statement × Condition.Fault)
  deriving Repr, DecidableEq

namespace Survey

/-- Looks at statements in their order. -/
def of (request : Request) : List Policy.Statement → Survey
  -- Statements behind one that cannot be decided are not looked at.
  | [] => ⟨[], none⟩
  | statement :: later =>
    match statement.applies request with
    | .error fault => ⟨[], some (statement, fault)⟩
    | .ok true => ⟨statement :: (of request later).applying, (of request later).failure⟩
    | .ok false => of request later

/-- The applying statements with an effect. -/
def withEffect (survey : Survey) (effect : Policy.Effect) : List Policy.Statement :=
  -- Their order stays.
  survey.applying.filter fun statement => statement.effect = effect

/-- The identifiers of statements, in order and each once. -/
def sidsOf (statements : List Policy.Statement) : List String :=
  -- Statements without an identifier or with an empty one are left out.
  Text.sortedSet (statements.filterMap fun statement => filled? statement.sid)

/-- The outcome that the applying statements lead to. -/
def outcome (survey : Survey) : Outcome :=
  -- One denial is enough, wherever it stands.
  if !(survey.withEffect .deny).isEmpty then ⟨.explicitDeny, sidsOf (survey.withEffect .deny)⟩
  else if !(survey.withEffect .allow).isEmpty then ⟨.allow, sidsOf (survey.withEffect .allow)⟩
  else ⟨.implicitDeny, []⟩

end Survey

namespace Policy.Document

/-- What the statements of a document say about a request. -/
def survey (document : Document) (request : Request) : Survey :=
  -- Every statement is looked at, so no denial is overlooked.
  Survey.of request document.statements

/-- Decides about a request. -/
def evaluate (document : Document) (request : Request) : Except EvaluationError Outcome :=
  -- A statement that cannot be decided leaves the whole request undecided.
  match (document.survey request).failure with
  | some (statement, fault) => .error (fault.inStatement statement)
  | none => .ok (document.survey request).outcome

/-- What the log records while statements are looked at, in their order. -/
def statementEvents (request : Request) : List Statement → List Log.Event
  -- A statement is recorded once all its checks are passed, and one that cannot be decided is not.
  | [] => []
  | statement :: later =>
    match statement.applies request with
    | .error _ => []
    | .ok true =>
      .statementApplicable statement.label statement.effect :: statementEvents request later
    | .ok false => statementEvents request later

/-- The event of a decision about a request, with the statements that apply to it. -/
def decisionEvent (request : Request) (applying : List Statement) (outcome : Outcome) :
    Log.Event :=
  -- The statements are named by their places.
  .policyDecision outcome.decision.name outcome.sids (applying.map Statement.index)
    request.action request.resource (request.principal.map Principal.text)

/-- What the log records of an evaluation. -/
def evaluationEvents (document : Document) (request : Request) : List Log.Event :=
  -- A decision is recorded only where there is one, behind everything else.
  let during := statementEvents request document.statements
  match document.evaluate request with
  | .error _ => during
  | .ok outcome => during ++ [decisionEvent request (document.survey request).applying outcome]

end Policy.Document

end AccessPolicy
