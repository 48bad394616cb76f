import AccessPolicy.Proofs.Policy.Writing

/-! The grammar of policies: which JSON values are documents, whatever they mean. -/

namespace AccessPolicy.Policy

/-- A text stands for all actions, or names some behind a service and the first colon. -/
inductive IsActionPattern : String → Prop where
  | everything : IsActionPattern "*"
  | named {service name : String} (first : ':' ∉ service.toList) (served : service ≠ "")
      (filled : name ≠ "") : IsActionPattern (service ++ ":" ++ name)

/-- A text starts like a resource name and has the colons of one. -/
def IsShapedLikeArn (text : String) : Prop :=
  -- The parts between the colons may be anything.
  ∃ rest, text = "arn:" ++ rest ∧ 5 ≤ text.toList.count ':'

/-- A text stands for all resources, or is shaped like the name of one. -/
inductive IsResourcePattern : String → Prop where
  | everything : IsResourcePattern "*"
  | shaped {text : String} (shape : IsShapedLikeArn text) : IsResourcePattern text

/-- A text names principals of accounts: all of them, an account, or by a resource name. -/
inductive IsAwsPrincipal : String → Prop where
  | everyone : IsAwsPrincipal "*"
  | account {text : String} (twelve : text.toList.length = 12)
      (digits : ∀ c ∈ text.toList, '0' ≤ c ∧ c ≤ '9') : IsAwsPrincipal text
  | shaped {text : String} (shape : IsShapedLikeArn text) : IsAwsPrincipal text

/-- A text names principals of a kind. -/
def IsNameOf (kind : PrincipalKind) (text : String) : Prop :=
  -- Kinds other than accounts take any text.
  kind = .aws → IsAwsPrincipal text

/-- A value is a text that fits, or a list of such texts that is not empty. -/
inductive IsTexts (fits : String → Prop) : Json → Prop where
  | single {text : String} (fitting : fits text) : IsTexts fits (.string text)
  | list {items : List Json} (filled : items ≠ [])
      (each : ∀ item ∈ items, ∃ text, item = .string text ∧ fits text) :
      IsTexts fits (.array items)

/-- A value is the wildcard for principals, or an object that names some of known kinds. -/
inductive IsBlock : Json → Prop where
  | everyone : IsBlock (.string "*")
  | listed {members : Json.Members Json} (filled : members ≠ [])
      (each : ∀ member ∈ members, ∃ kind : PrincipalKind,
        kind.name = member.1 ∧ IsTexts (IsNameOf kind) member.2) :
      IsBlock (.object members)

/-- An operator expects a text: one of its family, or the wildcard for resource names. -/
def IsExpectedBy (operator : Condition.Operator) (text : String) : Prop :=
  -- The wildcard is no resource name itself.
  operator.family = .arn ∧ text = "*" ∨
    ∃ expected, Condition.Value.read? operator.family .expected text = some expected

/-- A value is a scalar that an operator expects, or a list of such scalars that is not empty. -/
inductive IsValues (operator : Condition.Operator) : Json → Prop where
  | single {value : Json} {text : String} (scalar : WritesScalar value text)
      (expected : IsExpectedBy operator text) : IsValues operator value
  | list {items : List Json} (filled : items ≠ [])
      (single : operator = .null → items.length = 1)
      (each : ∀ item ∈ items, ∃ text, WritesScalar item text ∧ IsExpectedBy operator text) :
      IsValues operator (.array items)

/-- A value maps operator keys to objects with keys, and these to what the operator expects. -/
inductive IsCondition : Json → Prop where
  | object {members : Json.Members Json}
      (each : ∀ member ∈ members, ∃ (key : Condition.OperatorKey) (inner : Json.Members Json),
        key.WrittenAs member.1 ∧ member.2 = .object inner ∧ inner ≠ [] ∧
          ∀ leaf ∈ inner, IsValues key.base leaf.2) :
      IsCondition (.object members)

/-- A member is missing, null or a text. -/
inductive IsOptionalText : Option Json → Prop where
  | missing : IsOptionalText none
  | null : IsOptionalText (some .null)
  | text (text : String) : IsOptionalText (some (.string text))

/-- Neither spelling of an element is there. -/
def LacksElement (element : String) (members : Json.Members Json) : Prop :=
  -- The second spelling leaves out what it names.
  Json.find? element members = none ∧ Json.find? ("Not" ++ element) members = none

/-- Exactly one spelling of an element is there, with a value that fits. -/
inductive HasElement (fits : Json → Prop) (element : String) (members : Json.Members Json) :
    Prop where
  | covered {value : Json} (there : Json.find? element members = some value)
      (alone : Json.find? ("Not" ++ element) members = none) (fitting : fits value) :
      HasElement fits element members
  | leftOut {value : Json} (there : Json.find? ("Not" ++ element) members = some value)
      (alone : Json.find? element members = none) (fitting : fits value) :
      HasElement fits element members

/-- The members of an object are those of a statement. -/
structure IsStatement (members : Json.Members Json) : Prop where
  known : ∀ name ∈ Json.names members, name ∈ ["Sid", "Effect", "Principal", "NotPrincipal",
    "Action", "NotAction", "Resource", "NotResource", "Condition"]
  sid : IsOptionalText (Json.find? "Sid" members)
  effect : Json.find? "Effect" members = some (.string "Allow") ∨
    Json.find? "Effect" members = some (.string "Deny")
  action : HasElement (IsTexts IsActionPattern) "Action" members
  resource : HasElement (IsTexts IsResourcePattern) "Resource" members
  principal : LacksElement "Principal" members ∨ HasElement IsBlock "Principal" members
  condition : ∀ value, Json.find? "Condition" members = some value → IsCondition value

/-- A value is a statement, or a list of statements. -/
inductive IsStatements : Json → Prop where
  | single {members : Json.Members Json} (statement : IsStatement members) :
      IsStatements (.object members)
  | list {items : List Json}
      (each : ∀ item ∈ items, ∃ members, item = .object members ∧ IsStatement members) :
      IsStatements (.array items)

/-- A value is a document. -/
inductive IsDocument : Json → Prop where
  | object {members : Json.Members Json}
      (known : ∀ name ∈ Json.names members, name ∈ ["Version", "Id", "Statement"])
      (version : ∀ value, Json.find? "Version" members = some value →
        value = .string "2012-10-17" ∨ value = .string "2008-10-17")
      (id : IsOptionalText (Json.find? "Id" members))
      (statement : ∃ value, Json.find? "Statement" members = some value ∧ IsStatements value) :
      IsDocument (.object members)

end AccessPolicy.Policy
