import AccessPolicy.Json.Display
import AccessPolicy.Report

/-! Faults of policy documents against the grammar of policies. -/

namespace AccessPolicy.Policy

/-- The ways in which a document breaks the grammar. -/
inductive Fault where
  | documentNotObject
  | unknownElements (names : List String)
  | versionNotText
  | unsupportedVersion (version : String)
  | idNotText
  | missingStatement
  | statementsNotObjects
  | statementNotObject
  | sidNotText
  | unknownStatementElements (names : List String)
  | missingEffect
  | unknownEffect (value : Json)
  | bothSpellings (element : String)
  | neitherSpelling (element : String)
  | emptyList (field : String)
  | notOnlyTexts (field : String)
  | neitherTextNorList (field : String)
  | invalidPattern (field pattern : String)
  | invalidPrincipal (field : String)
  | unknownPrincipalKind (field name : String)
  | invalidAwsPrincipal (field name : String)
  | conditionNotObject
  | unknownOperator (raw name : String)
  | qualifiedNull (raw : String)
  | operatorNotObject (raw : String)
  | invalidScalar (raw : String)
  | noValues (raw : String)
  | nullTakesOneValue (raw key : String)
  | invalidValue (raw name value key : String)
  deriving Repr

namespace Fault

/-- The versions of the policy language. -/
def versions : List String := ["2008-10-17", "2012-10-17"]

/-- The kind of error that a fault is. -/
def kind : Fault → ErrorKind
  -- Most faults are plain violations of the grammar.
  | .missingStatement | .missingEffect | .neitherSpelling _ => .missingRequiredField
  | .bothSpellings _ => .invalidFieldCombination
  | .qualifiedNull _ => .unsupportedOperator
  | _ => .schemaViolation

/-- The wording of a fault without its location. -/
def reason : Fault → String
  -- Texts of the document are quoted, names of known elements are not.
  | .documentNotObject => "Policy document must be a JSON object"
  | .unknownElements names => "Unknown policy element(s): " ++ Text.joined ", " names
  | .versionNotText => "Version must be a string"
  | .unsupportedVersion version =>
    "Unsupported Version " ++ Text.quoted version ++ " (expected one of "
      ++ Text.joined ", " versions ++ ")"
  | .idNotText => "Id must be a string"
  | .missingStatement => "Statement is required"
  | .statementsNotObjects => "Statement must be an object or a list of objects"
  | .statementNotObject => "Statement must be a JSON object"
  | .sidNotText => "Sid must be a string"
  | .unknownStatementElements names =>
    "Unknown statement element(s): " ++ Text.joined ", " names
  | .missingEffect => "Effect is required"
  | .unknownEffect value => "Effect must be 'Allow' or 'Deny', got " ++ value.display
  | .bothSpellings element =>
    element ++ " and Not" ++ element ++ " cannot both be present"
  | .neitherSpelling element =>
    "One of " ++ element ++ " or Not" ++ element ++ " is required"
  | .emptyList field => field ++ " must not be empty"
  | .notOnlyTexts field => field ++ " must contain only strings"
  | .neitherTextNorList field => field ++ " must be a string or a list of strings"
  | .invalidPattern field pattern => "Invalid " ++ field ++ " pattern " ++ Text.quoted pattern
  | .invalidPrincipal field => field ++ " must be '*' or a non-empty object"
  | .unknownPrincipalKind _ name =>
    "Unknown principal type " ++ Text.quoted name ++ " (expected one of "
      ++ Text.joined ", " (PrincipalKind.all.map PrincipalKind.name) ++ ")"
  | .invalidAwsPrincipal _ name =>
    "AWS principal must be '*', an account ID or an ARN, got " ++ Text.quoted name
  | .conditionNotObject => "Condition must be an object"
  | .unknownOperator _ name => "Unknown condition operator " ++ Text.quoted name
  | .qualifiedNull _ => "Null cannot be combined with IfExists or set operators"
  | .operatorNotObject _ =>
    "Condition operator must map to a non-empty object of context keys"
  | .invalidScalar _ => "Condition values must be strings, numbers or booleans"
  | .noValues _ => "Condition values must not be empty"
  | .nullTakesOneValue _ key => "Null takes exactly one value for " ++ Text.quoted key
  | .invalidValue _ name value key =>
    "Invalid " ++ name ++ " value " ++ Text.quoted value ++ " for " ++ Text.quoted key

/-- The element that a fault is in, with its part where it has several. -/
def field : Fault → Option String
  -- Faults of a whole object are in none of its elements.
  | .documentNotObject | .unknownElements _ | .statementNotObject
  | .unknownStatementElements _ => none
  | .versionNotText | .unsupportedVersion _ => some "Version"
  | .idNotText => some "Id"
  | .missingStatement | .statementsNotObjects => some "Statement"
  | .sidNotText => some "Sid"
  | .missingEffect | .unknownEffect _ => some "Effect"
  | .bothSpellings element | .neitherSpelling element => some (element ++ "/Not" ++ element)
  | .emptyList field | .notOnlyTexts field | .neitherTextNorList field
  | .invalidPattern field _ | .invalidPrincipal field | .unknownPrincipalKind field _ => some field
  | .invalidAwsPrincipal field _ => some (field ++ ".AWS")
  | .conditionNotObject | .unknownOperator _ _ | .qualifiedNull _ | .operatorNotObject _
  | .invalidScalar _ | .noValues _ | .nullTakesOneValue _ _ | .invalidValue _ _ _ _ =>
    some "Condition"

/-- The written operator that a fault is in. -/
def operator : Fault → Option String
  -- Only conditions have operators.
  | .unknownOperator raw _ | .qualifiedNull raw | .operatorNotObject raw | .invalidScalar raw
  | .noValues raw | .nullTakesOneValue raw _ | .invalidValue raw _ _ _ => some raw
  | _ => none

/-- The report of a fault in a place. -/
def report (fault : Fault) (place : StatementPlace) : Report :=
  -- All but the place is settled by the fault.
  ⟨fault.kind, fault.reason, place, fault.field, fault.operator⟩

/-- The fault of an operator that cannot be read. -/
def ofOperator (raw : String) : Condition.OperatorFault → Fault
  -- The whole key leads to the fault, its name alone is in the wording.
  | .unknown name => .unknownOperator raw name
  | .qualifiedNull => .qualifiedNull raw

end Fault

end AccessPolicy.Policy
