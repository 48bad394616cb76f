import AccessPolicy.Condition.GlobalKey
import AccessPolicy.Log.Event
import AccessPolicy.Policy.Fault

/-! Reading of policy documents from JSON, with every rule of their grammar. -/

namespace AccessPolicy.Policy

/-- The place of a fault that is in no statement. -/
def nowhere : StatementPlace := ⟨none, none⟩

/-- The fault at which reading stopped, and the place of its statement. -/
structure Rejection where
  fault : Fault
  place : StatementPlace
  deriving Repr

/-- The report of a rejection. -/
def Rejection.report (rejection : Rejection) : Report :=
  -- The wording depends on the fault alone.
  rejection.fault.report rejection.place

/-- What reading yields, and what the log records of it. -/
structure Reading (ε α : Type) where
  result : Except ε α
  events : List Log.Event

namespace Reading

variable {ε φ α β : Type}

/-- A reading of which the log records nothing. -/
def silent (result : Except ε α) : Reading ε α := ⟨result, []⟩

/-- A reading that does nothing but record events. -/
def noting (events : List Log.Event) : Reading ε Unit := ⟨.ok (), events⟩

/-- A reading that goes on with what another one yields. -/
def andThen (first : Reading ε α) (later : α → Reading ε β) : Reading ε β :=
  -- A fault ends the reading, and what was recorded before it stays.
  match first.result with
  | .error fault => ⟨.error fault, first.events⟩
  | .ok value => ⟨(later value).result, first.events ++ (later value).events⟩

instance : Monad (Reading ε) where
  pure value := silent (.ok value)
  bind := andThen

/-- A reading whose fault is reworded. -/
def mapFault (reading : Reading ε α) (reword : ε → φ) : Reading φ α :=
  -- The events are the same.
  ⟨reading.result.mapError reword, reading.events⟩

end Reading

namespace Reader

/-- The names of an object that are not among the known ones, in the order of code points. -/
def unknownNames (known : List String) (members : List (String × Json)) : List String :=
  -- The order of the object does not matter.
  Text.sortedSet ((Json.names members).filter fun name => !known.contains name)

/-- Reads an element that is one text or a list of texts, of which at least one is needed. -/
def readTexts (field : String) : Json → Except Fault (List String)
  -- A single text stands for a list of one.
  | .string text => .ok [text]
  | .array items =>
    if items.isEmpty then .error (.emptyList field)
    else match items.mapM Json.string? with
      | some texts => .ok texts
      | none => .error (.notOnlyTexts field)
  | _ => .error (.neitherTextNorList field)

/-- Whether a text is a pattern for actions: the wildcard, or a service and a name. -/
def isActionPattern (pattern : String) : Bool :=
  -- The first colon ends the service, and neither part may be empty.
  if pattern = Arn.wildcard then true
  else match Text.cut ':' pattern.toList with
    | (service, some name) => !service.isEmpty && !name.isEmpty
    | (_, none) => false

/-- Whether a text is a pattern for resources: the wildcard, or shaped like a resource name. -/
def isResourcePattern (pattern : String) : Bool :=
  -- Wildcards may stand in any part.
  pattern = Arn.wildcard || Arn.hasShape pattern

/-- Reads the patterns of an element. -/
def readPatterns (isPattern : String → Bool) (field : String) (value : Json) :
    Except Fault (List String) :=
  -- The first text that is no pattern is reported.
  match readTexts field value with
  | .error fault => .error fault
  | .ok patterns =>
    match patterns.find? fun pattern => !isPattern pattern with
    | some pattern => .error (.invalidPattern field pattern)
    | none => .ok patterns

/-- Finds the one spelling of an element that is present, for what it covers or leaves out. -/
def findSpelling (element : String) (members : List (String × Json)) :
    Except Fault (Option (Selection Json)) :=
  -- The two spellings exclude each other.
  match Json.find? element members, Json.find? ("Not" ++ element) members with
  | some _, some _ => .error (.bothSpellings element)
  | some value, none => .ok (some (.only value))
  | none, some value => .ok (some (.allBut value))
  | none, none => .ok none

/-- Reads what a spelling names, under the name that belongs to the spelling. -/
def readSelection {α : Type} (read : String → Json → Except Fault α) (element : String) :
    Selection Json → Except Fault (Selection α)
  -- The way in which the element is meant stays.
  | .only value => (read element value).map .only
  | .allBut value => (read ("Not" ++ element) value).map .allBut

/-- Reads the patterns of an element, which has to be present in one spelling. -/
def readPatternElement (isPattern : String → Bool) (element : String)
    (members : List (String × Json)) : Except Fault (Selection (List String)) :=
  -- A statement without the element would apply to nothing or to everything.
  match findSpelling element members with
  | .error fault => .error fault
  | .ok none => .error (.neitherSpelling element)
  | .ok (some spelling) => readSelection (readPatterns isPattern) element spelling

/-- Whether a text names principals of accounts: the wildcard, an account or a resource name. -/
def isAwsPrincipal (name : String) : Bool :=
  -- Names without an account are refused.
  name = Arn.wildcard || Arn.isAccountId name || Arn.hasShape name

/-- Reads the principals of one kind into the lists of those read before. -/
def readPrincipals (field : String) (lists : PrincipalLists) (member : String × Json) :
    Except Fault PrincipalLists :=
  -- Only principals of accounts are checked further.
  match PrincipalKind.named.lookup member.1 with
  | none => .error (.unknownPrincipalKind field member.1)
  | some kind =>
    match readTexts (field ++ "." ++ member.1) member.2 with
    | .error fault => .error fault
    | .ok names =>
      match if kind = .aws then names.find? fun name => !isAwsPrincipal name else none with
      | some name => .error (.invalidAwsPrincipal field name)
      | none => .ok (lists.set kind names)

/-- Reads the principals that an element names. -/
def readBlock (field : String) : Json → Except Fault PrincipalBlock
  -- An empty object would name nobody.
  | .string text =>
    if text = Arn.wildcard then .ok .everyone else .error (.invalidPrincipal field)
  | .object members =>
    if members.isEmpty then .error (.invalidPrincipal field)
    else (members.foldlM (readPrincipals field) .empty).map .listed
  | _ => .error (.invalidPrincipal field)

/-- Reads the principal element of a statement, which may be missing. -/
def readPrincipalElement (members : List (String × Json)) :
    Except Fault (Option (Selection PrincipalBlock)) :=
  -- Policies of identities name no principals.
  match findSpelling "Principal" members with
  | .error fault => .error fault
  | .ok none => .ok none
  | .ok (some spelling) => (readSelection readBlock "Principal" spelling).map some

/-- The text of a single value of a condition. -/
def scalarText? : Json → Option String
  -- Numbers are written out as messages show them.
  | .string text => some text
  | .bool truth => some (if truth then "true" else "false")
  | .int number => some (Number.intText number)
  | .float number => some (Json.floatText number)
  | _ => none

/-- Reads the expected values of a condition: one value or a list of at least one. -/
def readValues (raw : String) : Json → Except Fault (List String)
  -- A single value stands for a list of one.
  | .array items =>
    if items.isEmpty then .error (.noValues raw)
    else match items.mapM scalarText? with
      | some texts => .ok texts
      | none => .error (.invalidScalar raw)
  | value =>
    match scalarText? value with
    | some text => .ok [text]
    | none => .error (.invalidScalar raw)

/-- Whether a text can be compared by operators of a family. -/
def isExpected (family : Condition.Family) (value : String) : Bool :=
  -- The wildcard is compared with resource names although it is none.
  (family = .arn && value = Arn.wildcard) || (Condition.Value.read? family .expected value).isSome

/-- Checks the expected values of an operator. -/
def checkValues (operator : Condition.OperatorKey) (key : String) (values : List String) :
    Except Fault Unit :=
  -- The test for presence has one value, and all values have to suit the operator.
  let family := operator.base.family
  if family = .null ∧ values.length ≠ 1 then .error (.nullTakesOneValue operator.raw key)
  else match values.find? fun value => !isExpected family value with
    | some value => .error (.invalidValue operator.raw operator.base.name value key)
    | none => .ok ()

/-- Reads an entry of a condition. -/
def readEntry (operator : Condition.OperatorKey) (member : String × Json) :
    Except Fault Condition.Entry :=
  -- The values are read before they are checked.
  match readValues operator.raw member.2 with
  | .error fault => .error fault
  | .ok values =>
    match checkValues operator member.1 values with
    | .error fault => .error fault
    | .ok () => .ok ⟨operator, member.1, values⟩

/-- The hint for an entry of a statement, if it is likely a mistake. -/
def hintFor (statement : Int) (sid : Option String) (entry : Condition.Entry) :
    Option Log.Event :=
  -- The hint changes nothing about the meaning of the entry.
  (Condition.GlobalKey.hint? entry.operator.base.family entry.key
    entry.operator.quantifier.isSome).map
      (.conditionTypeHint statement sid entry.operator.raw entry.key)

/-- Reads the entries of an operator in a statement. -/
def readEntries (index : Nat) (sid : Option String) (operator : Condition.OperatorKey) :
    List (String × Json) → Reading Fault (List Condition.Entry)
  -- The hint for an entry is recorded before the next entry is looked at.
  | [] => pure []
  | member :: later => do
    let entry ← Reading.silent (readEntry operator member)
    Reading.noting (hintFor index sid entry).toList
    let entries ← readEntries index sid operator later
    return entry :: entries

/-- Reads a member of a condition: an operator with its entries. -/
def readOperator (index : Nat) (sid : Option String) (member : String × Json) :
    Reading Fault (List Condition.Entry) :=
  -- An operator without entries would be true of everything.
  match Condition.OperatorKey.read member.1 with
  | .error fault => Reading.silent (.error (.ofOperator member.1 fault))
  | .ok operator =>
    match member.2 with
    | .object [] => Reading.silent (.error (.operatorNotObject member.1))
    | .object members => readEntries index sid operator members
    | _ => Reading.silent (.error (.operatorNotObject member.1))

/-- Reads the members of a condition. -/
def readOperators (index : Nat) (sid : Option String) :
    List (String × Json) → Reading Fault (List Condition.Entry)
  -- The entries of all operators form one list.
  | [] => pure []
  | member :: later => do
    let entries ← readOperator index sid member
    let others ← readOperators index sid later
    return entries ++ others

/-- Reads the condition of a statement, which may be missing. -/
def readCondition (index : Nat) (sid : Option String) :
    Option Json → Reading Fault (Option (List Condition.Entry))
  -- A missing condition holds always.
  | none => pure none
  | some (.object members) => do return some (← readOperators index sid members)
  | some _ => Reading.silent (.error .conditionNotObject)

/-- The elements that a statement may have. -/
def statementElements : List String :=
  -- Three elements have a second spelling.
  ["Sid", "Effect", "Principal", "NotPrincipal", "Action", "NotAction", "Resource", "NotResource",
    "Condition"]

/-- Reads the identifier of a statement, which may be missing or null. -/
def readSid (members : List (String × Json)) : Except Fault (Option String) :=
  -- An empty identifier is kept.
  match Json.find? "Sid" members with
  | none | some .null => .ok none
  | some (.string sid) => .ok (some sid)
  | some _ => .error .sidNotText

/-- Reads the effect of a statement. -/
def readEffect (members : List (String × Json)) : Except Fault Effect :=
  -- There is no effect by default.
  match Json.find? "Effect" members with
  | none => .error .missingEffect
  | some value =>
    match value.string?.bind fun name => Effect.named.lookup name with
    | some effect => .ok effect
    | none => .error (.unknownEffect value)

/-- Refuses elements that statements do not have. -/
def checkElements (members : List (String × Json)) : Except Fault Unit :=
  -- All of them are reported together.
  let unknown := unknownNames statementElements members
  if unknown.isEmpty then .ok () else .error (.unknownStatementElements unknown)

/-- Reads all elements of a statement but its identifier and its condition. -/
def readElements (index : Nat) (sid : Option String) (members : List (String × Json)) :
    Except Fault Statement := do
  -- The first fault in this order is reported.
  checkElements members
  let effect ← readEffect members
  let action ← readPatternElement isActionPattern "Action" members
  let resource ← readPatternElement isResourcePattern "Resource" members
  let principal ← readPrincipalElement members
  return ⟨index, sid, effect, action, resource, principal, none⟩

/-- Reads a statement. -/
def readStatement (index : Nat) : Json → Reading Rejection Statement
  -- The identifier is part of the place of all faults behind it.
  | .object members => do
    let sid ← Reading.silent ((readSid members).mapError fun fault => ⟨fault, ⟨some index, none⟩⟩)
    let statement ← Reading.silent
      ((readElements index sid members).mapError fun fault => ⟨fault, ⟨some index, sid⟩⟩)
    let condition ← (readCondition index sid (Json.find? "Condition" members)).mapFault
      fun fault => ⟨fault, ⟨some index, sid⟩⟩
    return { statement with condition }
  | _ => Reading.silent (.error ⟨.statementNotObject, ⟨some index, none⟩⟩)

/-- Reads statements from a place on. -/
def readStatements (index : Nat) : List Json → Reading Rejection (List Statement)
  -- Statements behind a rejected one are not looked at.
  | [] => pure []
  | value :: later => do
    let statement ← readStatement index value
    let statements ← readStatements (index + 1) later
    return statement :: statements

/-- The elements that a document may have. -/
def documentElements : List String := ["Version", "Id", "Statement"]

/-- The version of documents that name none. -/
def defaultVersion : String := "2008-10-17"

/-- Reads the version of a document. -/
def readVersion (members : List (String × Json)) : Except Fault String :=
  -- Only two versions were ever published.
  match (Json.find? "Version" members).getD (.string defaultVersion) with
  | .string version =>
    if Fault.versions.contains version then .ok version else .error (.unsupportedVersion version)
  | _ => .error .versionNotText

/-- Reads the identifier of a document, which may be missing or null. -/
def readId (members : List (String × Json)) : Except Fault (Option String) :=
  -- An empty identifier is kept.
  match Json.find? "Id" members with
  | none | some .null => .ok none
  | some (.string id) => .ok (some id)
  | some _ => .error .idNotText

/-- The statements of a document, of which a single one needs no list. -/
def statementsOf (members : List (String × Json)) : Except Fault (List Json) :=
  -- The list may be empty.
  match Json.find? "Statement" members with
  | none => .error .missingStatement
  | some (.object statement) => .ok [.object statement]
  | some (.array statements) => .ok statements
  | some _ => .error .statementsNotObjects

/-- A document whose statements are still to be read. -/
structure Outline where
  version : String
  id : Option String
  statements : List Json

/-- Reads a document up to its statements. -/
def readOutline : Json → Except Fault Outline
  -- The first fault in this order is reported.
  | .object members => do
    let unknown := unknownNames documentElements members
    if !unknown.isEmpty then throw (.unknownElements unknown)
    return ⟨← readVersion members, ← readId members, ← statementsOf members⟩
  | _ => throw .documentNotObject

end Reader

/-- Reads a document. -/
def Document.read (tree : Json) : Reading Rejection Document := do
  -- What is recorded of the statements comes before the report that all were read.
  let outline ← Reading.silent ((Reader.readOutline tree).mapError fun fault => ⟨fault, nowhere⟩)
  let statements ← Reader.readStatements 0 outline.statements
  Reading.noting [.policyParsed outline.version outline.id statements.length]
  return ⟨outline.version, outline.id, statements⟩

end AccessPolicy.Policy
