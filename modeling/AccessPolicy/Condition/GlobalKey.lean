import AccessPolicy.Condition.Operator
import AccessPolicy.Text.LowerCase

/-! The context keys that every service knows, and the operators that suit them. -/

namespace AccessPolicy.Condition

/-- The types of the values of global keys. -/
inductive KeyType where
  | text
  | numeric
  | date
  | epoch
  | bool
  | binary
  | ipAddress
  | arn
  deriving Repr, DecidableEq

/-- The name of a type. -/
def KeyType.name : KeyType → String
  -- Points in time are dates, or seconds that are numbers as well.
  | .text => "String"
  | .numeric => "Numeric"
  | .date => "Date"
  | .epoch => "Epoch"
  | .bool => "Bool"
  | .binary => "Binary"
  | .ipAddress => "IpAddress"
  | .arn => "ARN"

/-- How many values a global key has in a request. -/
inductive Cardinality where
  | optional
  | required
  | multiple
  deriving Repr, DecidableEq

/-- The name of a cardinality. -/
def Cardinality.name : Cardinality → String
  -- The first two stand for at most one value and for exactly one.
  | .optional => "optional"
  | .required => "required"
  | .multiple => "multiple"

/-- A context key that every service knows. -/
structure GlobalKey where
  name : String
  type : KeyType
  cardinality : Cardinality
  deriving Repr, DecidableEq

namespace GlobalKey

/-- All global keys. -/
def all : List GlobalKey := [
  ⟨"aws:CalledVia", .text, .multiple⟩,
  ⟨"aws:CalledViaFirst", .text, .optional⟩,
  ⟨"aws:CalledViaLast", .text, .optional⟩,
  ⟨"aws:CurrentTime", .date, .required⟩,
  ⟨"aws:EpochTime", .epoch, .required⟩,
  ⟨"aws:FederatedProvider", .text, .optional⟩,
  ⟨"aws:MultiFactorAuthAge", .numeric, .optional⟩,
  ⟨"aws:MultiFactorAuthPresent", .bool, .optional⟩,
  ⟨"aws:PrincipalAccount", .text, .required⟩,
  ⟨"aws:PrincipalArn", .arn, .optional⟩,
  ⟨"aws:PrincipalIsAWSService", .bool, .optional⟩,
  ⟨"aws:PrincipalOrgID", .text, .optional⟩,
  ⟨"aws:PrincipalOrgPaths", .text, .multiple⟩,
  ⟨"aws:PrincipalServiceName", .text, .optional⟩,
  ⟨"aws:PrincipalServiceNamesList", .text, .multiple⟩,
  ⟨"aws:PrincipalTag", .text, .optional⟩,
  ⟨"aws:PrincipalType", .text, .required⟩,
  ⟨"aws:referer", .text, .optional⟩,
  ⟨"aws:RequestedRegion", .text, .required⟩,
  ⟨"aws:RequestTag", .text, .optional⟩,
  ⟨"aws:ResourceAccount", .text, .required⟩,
  ⟨"aws:ResourceOrgID", .text, .optional⟩,
  ⟨"aws:ResourceOrgPaths", .text, .multiple⟩,
  ⟨"aws:ResourceTag", .text, .optional⟩,
  ⟨"aws:SecureTransport", .bool, .required⟩,
  ⟨"aws:SourceAccount", .text, .optional⟩,
  ⟨"aws:SourceArn", .arn, .optional⟩,
  ⟨"aws:SourceIdentity", .text, .optional⟩,
  ⟨"aws:SourceIp", .ipAddress, .optional⟩,
  ⟨"aws:SourceVpc", .text, .optional⟩,
  ⟨"aws:SourceVpce", .text, .optional⟩,
  ⟨"aws:TagKeys", .text, .multiple⟩,
  ⟨"aws:TokenIssueTime", .date, .optional⟩,
  ⟨"aws:UserAgent", .text, .required⟩,
  ⟨"aws:userid", .text, .required⟩,
  ⟨"aws:username", .text, .optional⟩,
  ⟨"aws:ViaAWSService", .bool, .required⟩,
  ⟨"aws:VpcSourceIp", .ipAddress, .optional⟩
]

/-- The lower-case names of keys behind which the name of a tag may stand. -/
def tagKeys : List String := ["aws:principaltag", "aws:requesttag", "aws:resourcetag"]

/-- The global key of a lower-case name. -/
def ofLowerName? (name : String) : Option GlobalKey :=
  -- No two keys differ in letter case alone.
  all.find? fun key => Text.lower key.name == name

/-- The global key of a name, in which letter case does not count. -/
def find? (name : String) : Option GlobalKey :=
  -- A tag is separated from its key by a slash.
  let low := Text.lower name
  match ofLowerName? low with
  | some key => some key
  | none =>
    match Text.cut '/' low.toList with
    | (key, some _) =>
      if tagKeys.contains (String.ofList key) then ofLowerName? (String.ofList key) else none
    | (_, none) => none

/-- Whether operators of a family can compare values of a type. -/
def suits : Family → KeyType → Bool
  -- Resource names are texts as well, and the test for presence suits every key.
  | .string, type | .stringIgnoreCase, type | .stringLike, type => type = .text || type = .arn
  | .numeric, type => type = .numeric || type = .epoch
  | .date, type => type = .date || type = .epoch
  | .bool, type => type = .bool
  | .binary, type => type = .binary
  | .ipAddress, type => type = .ipAddress
  | .arn, type => type = .arn
  | .null, _ => true

/-- What is likely wrong with applying operators of a family to a key. -/
def hint (key : GlobalKey) (family : Family) (quantified : Bool) : Option String :=
  -- The type is checked before the number of values.
  if !suits family key.type then
    some (key.name ++ " holds " ++ key.type.name ++ " values, compared with a " ++ family.name
      ++ " operator")
  else if key.cardinality = .multiple ∧ !quantified then
    some (key.name ++ " is multi-valued; use ForAllValues: or ForAnyValue:")
  else if key.cardinality ≠ .multiple ∧ quantified then
    some (key.name ++ " is single-valued; set operators are unnecessary")
  else none

/-- A hint for applying operators of a family to a key of this name, if it is a global key. -/
def hint? (family : Family) (name : String) (quantified : Bool) : Option String :=
  -- Whether a key is present can always be asked.
  if family = .null then none else (find? name).bind fun key => key.hint family quantified

end GlobalKey

end AccessPolicy.Condition
