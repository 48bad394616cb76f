import AccessPolicy.Json.Value
import AccessPolicy.Text.Cut
import AccessPolicy.Text.Blank
import AccessPolicy.Text.LowerCase
import AccessPolicy.Text.Order
import AccessPolicy.Text.Quoted

/-! The context of a request: values under names in which letter case does not count. -/

namespace AccessPolicy

/-- Values under lower-case names, in the order in which the names first appeared. -/
structure Context where
  entries : List (String × List String)
  deriving Repr, DecidableEq

namespace Context

/-- The context without names. -/
def empty : Context := ⟨[]⟩

/-- The values under a name, if the context has that name. -/
def values? (context : Context) (name : String) : Option (List String) :=
  -- Names are compared in lower case.
  context.entries.lookup (Text.lower name)

/-- Puts further values under a lower-case name. -/
def append (name : String) (values : List String) :
    List (String × List String) → List (String × List String)
  -- Values of a name that is there already go behind its old ones.
  | [] => [(name, values)]
  | (other, old) :: later =>
    if other = name then (name, old ++ values) :: later
    else (other, old) :: append name values later

/-- Adds values under a name. -/
def add (context : Context) (name : String) (values : List String) : Context :=
  -- The name is kept in lower case.
  ⟨append (Text.lower name) values context.entries⟩

/-- The context with the values of all entries. -/
def ofEntries (entries : List (String × List String)) : Context :=
  -- Entries whose names differ in letter case alone are joined.
  entries.foldl (fun context entry => context.add entry.1 entry.2) empty

/-- The context with the values of all sources, the first source first. -/
def merge (sources : List Context) : Context :=
  -- The entries of all sources are added one after the other.
  ofEntries (sources.flatMap entries)

/-- Why something does not describe a context. -/
inductive Fault where
  | pairWithoutKey (pair : String)
  | notTexts (name : String)
  | treeNotObject
  | unknownSections (names : List String)
  | sectionNotObject (name : String)
  | resourceNotObject (resource : String)
  deriving Repr, DecidableEq

/-- The wording of a fault. -/
def Fault.message : Fault → String
  -- Texts from the input are quoted, names of sections are fixed.
  | .pairWithoutKey pair =>
    "Invalid context value " ++ Text.quoted pair ++ ", expected KEY=VALUE"
  | .notTexts name =>
    "Context key " ++ Text.quoted name ++ " must map to a string or list of strings"
  | .treeNotObject => "Context file must contain a JSON object"
  | .unknownSections names => "Unknown context file sections: " ++ Text.joined ", " names
  | .sectionNotObject name => "'" ++ name ++ "' must be an object"
  | .resourceNotObject resource =>
    "Context for resource " ++ Text.quoted resource ++ " must be an object"

/-- The name and the value of a pair with an equals sign between them. -/
def splitPair? (pair : String) : Option (String × String) :=
  -- Blanks around the name do not count, those around the value do.
  match Text.cut '=' pair.toList with
  | (_, none) => none
  | (name, some value) =>
    if (Text.trim name).isEmpty then none
    else some (String.ofList (Text.trim name), String.ofList value)

/-- Adds the value of a pair. -/
def addPair (context : Context) (pair : String) : Except Fault Context :=
  -- A pair needs an equals sign and a name before it.
  match splitPair? pair with
  | none => .error (.pairWithoutKey pair)
  | some (name, value) => .ok (context.add name [value])

/-- The context that pairs describe, of which several may add to one name. -/
def ofPairs (pairs : List String) : Except Fault Context :=
  -- The first pair without a name is reported.
  pairs.foldlM addPair empty

/-- The values that a member of an object gives: one text or a list of texts. -/
def valuesOf? : Json → Option (List String)
  -- An empty list gives a name without values.
  | .string text => some [text]
  | .array items => items.mapM Json.string?
  | _ => none

/-- Adds the values of a member of an object. -/
def addMember (context : Context) (member : String × Json) : Except Fault Context :=
  -- Numbers and truth values are no texts.
  match valuesOf? member.2 with
  | none => .error (.notTexts member.1)
  | some values => .ok (context.add member.1 values)

/-- The context that the members of an object describe. -/
def ofMembers (members : List (String × Json)) : Except Fault Context :=
  -- The first member that gives no texts is reported.
  members.foldlM addMember empty

/-- The members of a section of a context file, which is empty where it is missing. -/
def sectionOf (members : List (String × Json)) (name : String) :
    Except Fault (List (String × Json)) :=
  -- Even null is no section.
  match Json.find? name members with
  | none => .ok []
  | some (.object inner) => .ok inner
  | some _ => .error (.sectionNotObject name)

/-- The sections that a context file may have. -/
def knownSections : List String := ["global", "resources"]

/-- The context of one resource, which only the member with its exact name describes. -/
def ofResource (resources : List (String × Json)) (resource : String) : Except Fault Context :=
  -- Members of other resources are not looked at.
  match Json.find? resource resources with
  | none => .ok empty
  | some (.object members) => ofMembers members
  | some _ => .error (.resourceNotObject resource)

/-- The context that a tree describes for a resource, or for none. -/
def ofTree (tree : Json) (resource : Option String) : Except Fault Context := do
  -- Values for all resources come before those for the one asked for.
  let .object members := tree | throw .treeNotObject
  let unknown := (Json.names members).filter fun name => !knownSections.contains name
  if !unknown.isEmpty then throw (.unknownSections (Text.sortedSet unknown))
  let shared ← ofMembers (← sectionOf members "global")
  let resources ← sectionOf members "resources"
  match resource with
  | none => return shared
  | some resource => return merge [shared, ← ofResource resources resource]

end Context

end AccessPolicy
