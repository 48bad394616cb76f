import AccessPolicy.Policy.Document

/-! Reports of errors: what is wrong, and in which statement. -/

namespace AccessPolicy

/-- The kinds of errors, each a special case of another up to the most general one. -/
inductive ErrorKind where
  | policyEvalError
  | parseError
  | schemaViolation
  | invalidFieldCombination
  | missingRequiredField
  | unsupportedOperator
  | evaluationError
  | unsupportedCondition
  | missingContextValue
  | argumentError
  deriving Repr, DecidableEq

namespace ErrorKind

/-- All kinds, the general ones before the special ones. -/
def all : List ErrorKind :=
  -- Errors of policies, of evaluations and of arguments stand together.
  [.policyEvalError, .parseError, .schemaViolation, .invalidFieldCombination,
    .missingRequiredField, .unsupportedOperator, .evaluationError, .unsupportedCondition,
    .missingContextValue, .argumentError]

/-- The name of a kind of errors. -/
def name : ErrorKind → String
  -- Names tell letter case apart.
  | .policyEvalError => "PolicyEvalError"
  | .parseError => "ParseError"
  | .schemaViolation => "SchemaViolation"
  | .invalidFieldCombination => "InvalidFieldCombination"
  | .missingRequiredField => "MissingRequiredField"
  | .unsupportedOperator => "UnsupportedOperator"
  | .evaluationError => "EvaluationError"
  | .unsupportedCondition => "UnsupportedConditionError"
  | .missingContextValue => "MissingContextValue"
  | .argumentError => "ArgumentError"

/-- The kind of a name. -/
def ofName? (name : String) : Option ErrorKind :=
  -- No two kinds share a name.
  all.find? fun kind => kind.name == name

/-- A kind and all more general ones, up to the most general. -/
def lineage : ErrorKind → List ErrorKind
  -- There are at most three generations.
  | .policyEvalError => [.policyEvalError]
  | .parseError => [.parseError, .policyEvalError]
  | .evaluationError => [.evaluationError, .policyEvalError]
  | .argumentError => [.argumentError, .policyEvalError]
  | .unsupportedCondition => [.unsupportedCondition, .evaluationError, .policyEvalError]
  | .missingContextValue => [.missingContextValue, .evaluationError, .policyEvalError]
  | kind => [kind, .parseError, .policyEvalError]

end ErrorKind

/-- A text unless it is empty. -/
def filled? (text : Option String) : Option String :=
  -- Empty names lead nowhere.
  text.filter fun text => !text.isEmpty

/-- A statement of a document, by its place and its identifier. -/
structure StatementPlace where
  index : Option Int
  sid : Option String
  deriving Repr, DecidableEq

/-- The place of a statement with its identifier. -/
def statementText (place : String) (sid : Option String) : String :=
  -- The identifier stands in brackets, if there is one.
  place ++ ((filled? sid).map fun sid => "(" ++ sid ++ ")").getD ""

/-- The names that lead to something in a statement, with points between them. -/
def pathText (statement : Option String) (names : List (Option String)) : String :=
  -- Outside of all statements only the names are left.
  Text.joined "." ((statement :: names.map filled?).filterMap id)

/-- The names that lead to a place in a document, with points between them. -/
def locationText (place : StatementPlace) (names : List (Option String)) : String :=
  -- An identifier shows only behind the place of its statement.
  let statement := place.index.map fun index =>
    statementText (Policy.placeText index) place.sid
  pathText statement names

/-- A reason with the location that it concerns, if it concerns one. -/
def located (location reason : String) : String :=
  -- Without a location the reason stands alone.
  if location.isEmpty then reason else location ++ ": " ++ reason

namespace Policy

/-- An error in a policy document. -/
structure Report where
  kind : ErrorKind
  reason : String
  place : StatementPlace
  field : Option String
  operator : Option String
  deriving Repr, DecidableEq

namespace Report

/-- The names that lead to the error. -/
def location (report : Report) : String :=
  -- The operator is part of the condition field.
  locationText report.place [report.field, report.operator]

/-- The whole wording of the error. -/
def message (report : Report) : String :=
  -- The location comes first.
  located report.location report.reason

end Report

end Policy

end AccessPolicy
