import AccessPolicy.Policy.Reader
import AccessPolicy.Proofs.Condition.OperatorKey
import AccessPolicy.Proofs.Paired

/-! What JSON values write: policies and their parts, without an order of reading or of checks. -/

namespace AccessPolicy.Policy

/-- A value writes texts: a single one by itself, or at least one in a list. -/
inductive WritesTexts : Json → List String → Prop where
  | single (text : String) : WritesTexts (.string text) [text]
  | list {texts : List String} (filled : texts ≠ []) :
      WritesTexts (.array (texts.map .string)) texts

/-- A member that may be missing or null writes a text, or none. -/
inductive WritesOptional : Option Json → Option String → Prop where
  | missing : WritesOptional none none
  | null : WritesOptional (some .null) none
  | text (text : String) : WritesOptional (some (.string text)) (some text)

/-- A missing member writes no text. -/
theorem writesOptional_none_iff {text : Option String} :
    WritesOptional none text ↔ text = none := by
  constructor
  · intro written
    cases written with
    | missing => rfl
  · intro nothing
    rw [nothing]
    exact .missing

/-- A member that is there writes a text unless it is null. -/
theorem writesOptional_some_iff {value : Json} {text : Option String} :
    WritesOptional (some value) text ↔
      value = .null ∧ text = none ∨ ∃ there, value = .string there ∧ text = some there := by
  constructor
  · intro written
    cases written with
    | null => exact Or.inl ⟨rfl, rfl⟩
    | text there => exact Or.inr ⟨there, rfl, rfl⟩
  · rintro (⟨rfl, rfl⟩ | ⟨there, rfl, rfl⟩)
    · exact .null
    · exact .text there

/-- A member writes the principals of a kind, of which a missing one writes none. -/
inductive WritesNames : Option Json → List String → Prop where
  | missing : WritesNames none []
  | there {value : Json} {names : List String} (texts : WritesTexts value names) :
      WritesNames (some value) names

/-- A value writes the principals of an element: all of them, or lists by kind. -/
inductive WritesBlock : Json → PrincipalBlock → Prop where
  | everyone : WritesBlock (.string "*") .everyone
  | listed {members : Json.Members Json} {lists : PrincipalLists} (filled : members ≠ [])
      (known : ∀ name ∈ Json.names members, ∃ kind : PrincipalKind, kind.name = name)
      (each : ∀ kind : PrincipalKind, WritesNames (Json.find? kind.name members) (lists.of kind)) :
      WritesBlock (.object members) (.listed lists)

/-- A scalar writes the text that it is compared as. -/
inductive WritesScalar : Json → String → Prop where
  | text (text : String) : WritesScalar (.string text) text
  | yes : WritesScalar (.bool true) "true"
  | no : WritesScalar (.bool false) "false"
  | whole (number : Int) : WritesScalar (.int number) (Number.intText number)
  | float (number : Number.Binary64) : WritesScalar (.float number) (Json.floatText number)

/-- A value writes expected texts: a single scalar by itself, or at least one in a list. -/
inductive WritesValues : Json → List String → Prop where
  | single {value : Json} {text : String} (scalar : WritesScalar value text) :
      WritesValues value [text]
  | list {items : List Json} {texts : List String} (filled : items ≠ [])
      (each : List.Forall₂ WritesScalar items texts) : WritesValues (.array items) texts

/-- What a condition says about one context key: the operator and the key as written, the values. -/
structure Leaf where
  operator : String
  key : String
  values : Json

/-- The leaves of an operator, key by key. -/
def leavesOf (member : String × Json) : List Leaf :=
  -- An operator without an object behind it has no leaves.
  match member.2 with
  | .object inner => inner.map fun leaf => ⟨member.1, leaf.1, leaf.2⟩
  | _ => []

/-- The leaves of a condition, operator by operator. -/
def leaves (members : Json.Members Json) : List Leaf :=
  -- All of them form one list.
  members.flatMap leavesOf

/-- A leaf writes an entry. -/
structure WritesEntry (leaf : Leaf) (entry : Condition.Entry) : Prop where
  operator : entry.operator.WrittenAs leaf.operator
  key : entry.key = leaf.key
  values : WritesValues leaf.values entry.values

/-- A member of a condition has an object with keys behind its operator. -/
def HasKeys (member : String × Json) : Prop :=
  -- An operator without keys would be true of everything.
  ∃ inner, inner ≠ [] ∧ member.2 = .object inner

/-- A value writes the entries of a condition, of which each leaf writes one in its place. -/
inductive WritesCondition : Json → List Condition.Entry → Prop where
  | object {members : Json.Members Json} {entries : List Condition.Entry}
      (filled : ∀ member ∈ members, HasKeys member)
      (each : List.Forall₂ WritesEntry (leaves members) entries) :
      WritesCondition (.object members) entries

/-- Two members write the two ways of one element, and what is missing is not named that way. -/
structure WritesSelection {α : Type} (writes : Json → α → Prop) (element : String)
    (members : Json.Members Json) (selection : Option (Selection α)) : Prop where
  covered : Option.Rel writes (Json.find? element members) (selection.bind Selection.covered?)
  leftOut : Option.Rel writes (Json.find? ("Not" ++ element) members)
    (selection.bind Selection.leftOut?)

section Selection

variable {α : Type} {writes : Json → α → Prop} {element : String} {members : Json.Members Json}

/-- An element is missing where neither of its names is there. -/
theorem writesSelection_none_iff :
    WritesSelection writes element members none ↔
      Json.find? element members = none ∧ Json.find? ("Not" ++ element) members = none :=
  ⟨fun ⟨covered, leftOut⟩ => ⟨rel_none_right_iff.mp covered, rel_none_right_iff.mp leftOut⟩,
    fun ⟨covered, leftOut⟩ => ⟨rel_none_right_iff.mpr covered, rel_none_right_iff.mpr leftOut⟩⟩

/-- An element covers what the member of its plain name writes, where that is there alone. -/
theorem writesSelection_only_iff {named : α} :
    WritesSelection writes element members (some (.only named)) ↔
      (∃ value, Json.find? element members = some value ∧ writes value named) ∧
        Json.find? ("Not" ++ element) members = none :=
  ⟨fun ⟨covered, leftOut⟩ => ⟨rel_some_right_iff.mp covered, rel_none_right_iff.mp leftOut⟩,
    fun ⟨covered, leftOut⟩ => ⟨rel_some_right_iff.mpr covered, rel_none_right_iff.mpr leftOut⟩⟩

/-- An element leaves out what the member of its other name writes, where that is there alone. -/
theorem writesSelection_allBut_iff {named : α} :
    WritesSelection writes element members (some (.allBut named)) ↔
      Json.find? element members = none ∧
        ∃ value, Json.find? ("Not" ++ element) members = some value ∧ writes value named :=
  ⟨fun ⟨covered, leftOut⟩ => ⟨rel_none_right_iff.mp covered, rel_some_right_iff.mp leftOut⟩,
    fun ⟨covered, leftOut⟩ => ⟨rel_none_right_iff.mpr covered, rel_some_right_iff.mpr leftOut⟩⟩

end Selection

/-- The members of an object write a statement, and each of them writes an element of it. -/
structure WritesStatement (members : Json.Members Json) (statement : Statement) : Prop where
  known : ∀ name ∈ Json.names members, name ∈ ["Sid", "Effect", "Principal", "NotPrincipal",
    "Action", "NotAction", "Resource", "NotResource", "Condition"]
  sid : WritesOptional (Json.find? "Sid" members) statement.sid
  effect : Json.find? "Effect" members = some (.string statement.effect.name)
  action : WritesSelection WritesTexts "Action" members (some statement.action)
  resource : WritesSelection WritesTexts "Resource" members (some statement.resource)
  principal : WritesSelection WritesBlock "Principal" members statement.principal
  condition : Option.Rel WritesCondition (Json.find? "Condition" members) statement.condition

/-- A value lists the objects of statements, of which a single one needs no list. -/
inductive ListsStatements : Json → List (Json.Members Json) → Prop where
  | single (members : Json.Members Json) : ListsStatements (.object members) [members]
  | list (statements : List (Json.Members Json)) :
      ListsStatements (.array (statements.map .object)) statements

/-- Objects write statements one by one, each at the place behind the one before it. -/
inductive WritesStatements : Nat → List (Json.Members Json) → List Statement → Prop where
  | nil (place : Nat) : WritesStatements place [] []
  | cons {place : Nat} {members : Json.Members Json} {statement : Statement}
      {others : List (Json.Members Json)} {statements : List Statement}
      (here : statement.index = place) (first : WritesStatement members statement)
      (behind : WritesStatements (place + 1) others statements) :
      WritesStatements place (members :: others) (statement :: statements)

/-- A tree writes a document, and each of its members writes an element of it. -/
inductive WritesDocument : Json → Document → Prop where
  | object {members : Json.Members Json} {document : Document} {value : Json}
      {objects : List (Json.Members Json)}
      (known : ∀ name ∈ Json.names members, name ∈ ["Version", "Id", "Statement"])
      (version : Json.find? "Version" members = some (.string document.version) ∨
        Json.find? "Version" members = none ∧ document.version = "2008-10-17")
      (id : WritesOptional (Json.find? "Id" members) document.id)
      (there : Json.find? "Statement" members = some value)
      (listed : ListsStatements value objects)
      (statements : WritesStatements 0 objects document.statements) :
      WritesDocument (.object members) document

end AccessPolicy.Policy
