import AccessPolicy.Proofs.FirstWithout
import AccessPolicy.Proofs.Policy.Grammar
import Mathlib.Tactic.MkIffOfInductiveProp

/-! Breaches of the grammar: which fault a value has, said without reading it. -/

namespace AccessPolicy.Policy

open Condition (OperatorKey)

/-- The members of an object, of which other values have none. -/
def membersOf : Json → Json.Members Json
  -- Whether a value is an object is asked apart.
  | .object members => members
  | _ => []

/-- The identifier of a statement, if it is an object and has a text for one. -/
def sidOf (value : Json) : Option String :=
  -- Other identifiers count as none.
  (Json.find? "Sid" (membersOf value)).bind Json.string?

/-- Names of an object that are not known there, each once and in the order of code points. -/
structure AreUnknown (known : List String) (members : Json.Members Json) (names : List String) :
    Prop where
  filled : names ≠ []
  increasing : names.Pairwise (· < ·)
  each : ∀ name, name ∈ names ↔ name ∈ Json.names members ∧ name ∉ known

/-- A value that should be a text or texts is neither. -/
inductive BreaksTexts (field : String) : Json → Fault → Prop where
  | empty : BreaksTexts field (.array []) (.emptyList field)
  | mixed {items : List Json} {item : Json} (inside : item ∈ items)
      (other : ∀ text, item ≠ .string text) : BreaksTexts field (.array items) (.notOnlyTexts field)
  | neither {value : Json} (noText : ∀ text, value ≠ .string text)
      (noList : ∀ items, value ≠ .array items) :
      BreaksTexts field value (.neitherTextNorList field)

/-- A value that should be patterns is no texts, or the first text that does not fit is reported. -/
@[mk_iff]
inductive BreaksPatterns (fits : String → Prop) (field : String) : Json → Fault → Prop where
  | texts {value : Json} {fault : Fault} (broken : BreaksTexts field value fault) :
      BreaksPatterns fits field value fault
  | pattern {value : Json} {texts : List String} {pattern : String}
      (written : WritesTexts value texts) (first : IsFirstWithout fits texts pattern) :
      BreaksPatterns fits field value (.invalidPattern field pattern)

/-- An element has both spellings, or a fault in the value of the one that is there. -/
inductive BreaksElement (breaks : String → Json → Fault → Prop) (element : String)
    (members : Json.Members Json) : Fault → Prop where
  | both {value other : Json} (here : Json.find? element members = some value)
      (there : Json.find? ("Not" ++ element) members = some other) :
      BreaksElement breaks element members (.bothSpellings element)
  | covered {value : Json} {fault : Fault} (there : Json.find? element members = some value)
      (alone : Json.find? ("Not" ++ element) members = none)
      (broken : breaks element value fault) : BreaksElement breaks element members fault
  | leftOut {value : Json} {fault : Fault}
      (there : Json.find? ("Not" ++ element) members = some value)
      (alone : Json.find? element members = none)
      (broken : breaks ("Not" ++ element) value fault) : BreaksElement breaks element members fault

/-- An element of patterns is missing, or there with a fault. -/
@[mk_iff]
inductive BreaksPatternElement (fits : String → Prop) (element : String)
    (members : Json.Members Json) : Fault → Prop where
  | missing (lacks : LacksElement element members) :
      BreaksPatternElement fits element members (.neitherSpelling element)
  | there {fault : Fault} (broken : BreaksElement (BreaksPatterns fits) element members fault) :
      BreaksPatternElement fits element members fault

/-- A member of a block names principals of a kind. -/
def NamesPrincipals (member : String × Json) : Prop :=
  -- Which kind it is says the name of the member.
  ∃ kind : PrincipalKind, kind.name = member.1 ∧ IsTexts (IsNameOf kind) member.2

/-- A member of a block is of no kind, or has no texts, or a text that names no account. -/
inductive BreaksPrincipals (field : String) : String × Json → Fault → Prop where
  | kind {name : String} {value : Json} (unknown : ∀ kind : PrincipalKind, kind.name ≠ name) :
      BreaksPrincipals field (name, value) (.unknownPrincipalKind field name)
  | texts {kind : PrincipalKind} {value : Json} {fault : Fault}
      (broken : BreaksTexts (field ++ "." ++ kind.name) value fault) :
      BreaksPrincipals field (kind.name, value) fault
  | account {value : Json} {texts : List String} {name : String}
      (written : WritesTexts value texts) (first : IsFirstWithout IsAwsPrincipal texts name) :
      BreaksPrincipals field (PrincipalKind.aws.name, value) (.invalidAwsPrincipal field name)

/-- A block is neither the wildcard nor a filled object, or has a first faulty member. -/
inductive BreaksBlock (field : String) : Json → Fault → Prop where
  | shape {value : Json} (narrow : value ≠ .string "*")
      (unfilled : ∀ members, value = .object members → members = []) :
      BreaksBlock field value (.invalidPrincipal field)
  | member {members : Json.Members Json} {member : String × Json} {fault : Fault}
      (first : IsFirstWithout NamesPrincipals members member)
      (broken : BreaksPrincipals field member fault) : BreaksBlock field (.object members) fault

/-- A value that should be a scalar or scalars is neither. -/
inductive BreaksScalars (raw : String) : Json → Fault → Prop where
  | empty : BreaksScalars raw (.array []) (.noValues raw)
  | mixed {items : List Json} {item : Json} (inside : item ∈ items)
      (other : ∀ text, ¬ WritesScalar item text) :
      BreaksScalars raw (.array items) (.invalidScalar raw)
  | neither {value : Json} (noScalar : ∀ text, ¬ WritesScalar value text)
      (noList : ∀ items, value ≠ .array items) : BreaksScalars raw value (.invalidScalar raw)

/-- The values for a key are no scalars, or too many, or the first unexpected one is reported. -/
@[mk_iff]
inductive BreaksValues (operator : OperatorKey) (key : String) : Json → Fault → Prop where
  | scalars {value : Json} {fault : Fault} (broken : BreaksScalars operator.raw value fault) :
      BreaksValues operator key value fault
  | presence {value : Json} {texts : List String} (written : WritesValues value texts)
      (presence : operator.base = .null) (several : texts.length ≠ 1) :
      BreaksValues operator key value (.nullTakesOneValue operator.raw key)
  | value {value : Json} {texts : List String} {text : String} (written : WritesValues value texts)
      (single : operator.base = .null → texts.length = 1)
      (first : IsFirstWithout (IsExpectedBy operator.base) texts text) :
      BreaksValues operator key value
        (.invalidValue operator.raw operator.base.name text key)

/-- A member of a condition has an operator, with keys behind it and expected values for each. -/
def IsOperator (member : String × Json) : Prop :=
  -- All keys share the operator.
  ∃ (key : OperatorKey) (inner : Json.Members Json), key.WrittenAs member.1 ∧
    member.2 = .object inner ∧ inner ≠ [] ∧ ∀ leaf ∈ inner, IsValues key.base leaf.2

/-- A member of a condition has no operator, no keys behind it, or a first faulty key. -/
inductive BreaksOperator : String × Json → Fault → Prop where
  | unread {raw : String} {value : Json} {wrong : Condition.OperatorFault}
      (unread : OperatorKey.read raw = .error wrong) :
      BreaksOperator (raw, value) (.ofOperator raw wrong)
  | keyless {key : OperatorKey} {raw : String} {value : Json} (spelled : key.WrittenAs raw)
      (unfilled : ∀ inner, value = .object inner → inner = []) :
      BreaksOperator (raw, value) (.operatorNotObject raw)
  | leaf {key : OperatorKey} {raw : String} {inner : Json.Members Json} {leaf : String × Json}
      {fault : Fault} (spelled : key.WrittenAs raw)
      (first : IsFirstWithout (fun leaf => IsValues key.base leaf.2) inner leaf)
      (broken : BreaksValues key leaf.1 leaf.2 fault) :
      BreaksOperator (raw, .object inner) fault

/-- A condition is no object, or has a first faulty member. -/
inductive BreaksCondition : Json → Fault → Prop where
  | shape {value : Json} (shapeless : ∀ members, value ≠ .object members) :
      BreaksCondition value .conditionNotObject
  | member {members : Json.Members Json} {member : String × Json} {fault : Fault}
      (first : IsFirstWithout IsOperator members member) (broken : BreaksOperator member fault) :
      BreaksCondition (.object members) fault

/-- What is checked about a statement, each for itself. -/
inductive StatementCheck where
  | object
  | sid
  | elements
  | effect
  | action
  | resource
  | principal
  | condition
  deriving Repr, DecidableEq

namespace StatementCheck

/-- The checks of a statement in their order. -/
def all : List StatementCheck :=
  -- The first one that fails is reported.
  [.object, .sid, .elements, .effect, .action, .resource, .principal, .condition]

/-- A value passes a check, whether or not it passes the others. -/
def Passes (check : StatementCheck) (value : Json) : Prop :=
  -- Each check but the first is about the members of an object.
  match check with
  | .object => ∃ members, value = .object members
  | .sid => IsOptionalText (Json.find? "Sid" (membersOf value))
  | .elements => ∀ name ∈ Json.names (membersOf value), name ∈ Reader.statementElements
  | .effect => Json.find? "Effect" (membersOf value) = some (.string "Allow") ∨
    Json.find? "Effect" (membersOf value) = some (.string "Deny")
  | .action => HasElement (IsTexts IsActionPattern) "Action" (membersOf value)
  | .resource => HasElement (IsTexts IsResourcePattern) "Resource" (membersOf value)
  | .principal => LacksElement "Principal" (membersOf value) ∨
    HasElement IsBlock "Principal" (membersOf value)
  | .condition => ∀ given, Json.find? "Condition" (membersOf value) = some given →
    IsCondition given

/-- A value fails a check with a fault, whether or not it passes the others. -/
inductive Fails (value : Json) : StatementCheck → Fault → Prop where
  | object (shapeless : ∀ members, value ≠ .object members) : Fails value object .statementNotObject
  | sid (other : ¬ IsOptionalText (Json.find? "Sid" (membersOf value))) :
      Fails value sid .sidNotText
  | elements {names : List String}
      (unknown : AreUnknown Reader.statementElements (membersOf value) names) :
      Fails value elements (.unknownStatementElements names)
  | missing (absent : Json.find? "Effect" (membersOf value) = none) :
      Fails value effect .missingEffect
  | unknown {given : Json} (there : Json.find? "Effect" (membersOf value) = some given)
      (noAllow : given ≠ .string "Allow") (noDeny : given ≠ .string "Deny") :
      Fails value effect (.unknownEffect given)
  | action {fault : Fault}
      (broken : BreaksPatternElement IsActionPattern "Action" (membersOf value) fault) :
      Fails value action fault
  | resource {fault : Fault}
      (broken : BreaksPatternElement IsResourcePattern "Resource" (membersOf value) fault) :
      Fails value resource fault
  | principal {fault : Fault}
      (broken : BreaksElement BreaksBlock "Principal" (membersOf value) fault) :
      Fails value principal fault
  | condition {given : Json} {fault : Fault}
      (there : Json.find? "Condition" (membersOf value) = some given)
      (broken : BreaksCondition given fault) : Fails value condition fault

end StatementCheck

/-- A value is an object with the members of a statement. -/
def IsStatementObject (value : Json) : Prop :=
  -- It then passes all checks.
  ∃ members, value = .object members ∧ IsStatement members

/-- The first check that a value fails is that of its condition, and a member of that is faulty. -/
structure HasFaultyOperator (value : Json) (raw : String) : Prop where
  condition : IsFirstWithout (fun check : StatementCheck => check.Passes value) StatementCheck.all
    .condition
  /-- The members before the faulty one have no fault. -/
  operator : ∃ members body, Json.find? "Condition" (membersOf value) = some (.object members) ∧
    IsFirstWithout IsOperator members (raw, body)

/-- What is checked about a document apart from its statements, each for itself. -/
inductive DocumentCheck where
  | object
  | elements
  | version
  | id
  | statement
  deriving Repr, DecidableEq

/-- A value lists statements: a single one by itself, or any number in a list. -/
inductive Lists : Json → List Json → Prop where
  | single (members : Json.Members Json) : Lists (.object members) [.object members]
  | list (values : List Json) : Lists (.array values) values

namespace DocumentCheck

/-- The checks of a document in their order. -/
def all : List DocumentCheck :=
  -- The statements are looked at behind all of these.
  [.object, .elements, .version, .id, .statement]

/-- A tree passes a check, whether or not it passes the others. -/
def Passes (check : DocumentCheck) (tree : Json) : Prop :=
  -- What the listed statements are is not asked.
  match check with
  | .object => ∃ members, tree = .object members
  | .elements => ∀ name ∈ Json.names (membersOf tree), name ∈ Reader.documentElements
  | .version => ∀ given, Json.find? "Version" (membersOf tree) = some given →
    given = .string "2012-10-17" ∨ given = .string "2008-10-17"
  | .id => IsOptionalText (Json.find? "Id" (membersOf tree))
  | .statement => ∃ given values, Json.find? "Statement" (membersOf tree) = some given ∧
    Lists given values

/-- A tree fails a check with a fault, whether or not it passes the others. -/
inductive Fails (tree : Json) : DocumentCheck → Fault → Prop where
  | object (shapeless : ∀ members, tree ≠ .object members) : Fails tree object .documentNotObject
  | elements {names : List String}
      (unknown : AreUnknown Reader.documentElements (membersOf tree) names) :
      Fails tree elements (.unknownElements names)
  | noText {given : Json} (there : Json.find? "Version" (membersOf tree) = some given)
      (other : ∀ text, given ≠ .string text) : Fails tree version .versionNotText
  | unsupported {text : String}
      (there : Json.find? "Version" (membersOf tree) = some (.string text))
      (unpublished : text ∉ Fault.versions) :
      Fails tree version (.unsupportedVersion text)
  | id (other : ¬ IsOptionalText (Json.find? "Id" (membersOf tree))) : Fails tree id .idNotText
  | missing (absent : Json.find? "Statement" (membersOf tree) = none) :
      Fails tree statement .missingStatement
  | shape {given : Json} (there : Json.find? "Statement" (membersOf tree) = some given)
      (unlisted : ∀ values, ¬ Lists given values) : Fails tree statement .statementsNotObjects

end DocumentCheck

/-- A tree is a document as far as it is not about its statements, of which it lists some values. -/
structure HasStatements (tree : Json) (values : List Json) : Prop where
  passes : ∀ check : DocumentCheck, check.Passes tree
  listed : ∃ given, Json.find? "Statement" (membersOf tree) = some given ∧ Lists given values

section Operator

variable {field element : String} {value : Json} {members : Json.Members Json}
  {member : String × Json} {fault : Fault}

/-- Faults of texts name no operator. -/
theorem BreaksTexts.operator_eq_none (broken : BreaksTexts field value fault) :
    fault.operator = none := by
  cases broken <;> rfl

/-- Faults of patterns name no operator. -/
theorem BreaksPatterns.operator_eq_none {fits : String → Prop}
    (broken : BreaksPatterns fits field value fault) : fault.operator = none := by
  cases broken with
  | texts broken => exact broken.operator_eq_none
  | pattern => rfl

/-- Faults of an element name no operator, if those of its value name none. -/
theorem BreaksElement.operator_eq_none {breaks : String → Json → Fault → Prop}
    (plain : ∀ field value fault, breaks field value fault → fault.operator = none)
    (broken : BreaksElement breaks element members fault) : fault.operator = none := by
  cases broken with
  | both => rfl
  | covered _ _ broken => exact plain _ _ _ broken
  | leftOut _ _ broken => exact plain _ _ _ broken

/-- Faults of an element of patterns name no operator. -/
theorem BreaksPatternElement.operator_eq_none {fits : String → Prop}
    (broken : BreaksPatternElement fits element members fault) : fault.operator = none := by
  cases broken with
  | missing => rfl
  | there broken => exact broken.operator_eq_none fun _ _ _ broken => broken.operator_eq_none

/-- Faults of a block name no operator. -/
theorem BreaksBlock.operator_eq_none (broken : BreaksBlock field value fault) :
    fault.operator = none := by
  cases broken with
  | shape => rfl
  | member _ broken =>
    cases broken with
    | kind => rfl
    | texts broken => exact broken.operator_eq_none
    | account => rfl

/-- The operator of a fault in values is the one that they are given to. -/
theorem BreaksValues.operator_eq {operator : OperatorKey} {key : String}
    (broken : BreaksValues operator key value fault) : fault.operator = some operator.raw := by
  cases broken with
  | scalars broken => cases broken <;> rfl
  | presence => rfl
  | value => rfl

/-- The operator of a fault in a member of a condition is the name of the member. -/
theorem BreaksOperator.operator_eq (broken : BreaksOperator member fault) :
    fault.operator = some member.1 := by
  cases broken with
  | @unread _ _ wrong _ => cases wrong <;> rfl
  | keyless => rfl
  | leaf spelled _ broken => exact spelled.kept ▸ broken.operator_eq

/-- Faults of a document apart from its statements name no operator. -/
theorem DocumentCheck.Fails.operator_eq_none {check : DocumentCheck} {tree : Json}
    (fails : check.Fails tree fault) : fault.operator = none := by
  cases fails <;> rfl

/-- A fault that names an operator is in the member of the condition that has this name. -/
theorem StatementCheck.Fails.exists_operator {check : StatementCheck}
    (fails : check.Fails value fault) {raw : String} (named : fault.operator = some raw) :
    check = .condition ∧ ∃ members body,
      Json.find? "Condition" (membersOf value) = some (.object members) ∧
        IsFirstWithout IsOperator members (raw, body) := by
  have nameless {α : Prop} (none : fault.operator = none) : α := by
    cases none.symm.trans named
  cases fails with
  | object | sid | elements | missing | unknown => cases named
  | action broken => exact nameless broken.operator_eq_none
  | resource broken => exact nameless broken.operator_eq_none
  | principal broken =>
    exact nameless (broken.operator_eq_none fun _ _ _ broken => broken.operator_eq_none)
  | condition there broken =>
    cases broken with
    | shape => cases named
    | @member members member _ first broken =>
      obtain ⟨name, body⟩ := member
      obtain rfl : name = raw := Option.some.inj (broken.operator_eq.symm.trans named)
      exact ⟨rfl, members, body, there, first⟩

end Operator

end AccessPolicy.Policy
