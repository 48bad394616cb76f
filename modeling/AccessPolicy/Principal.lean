import AccessPolicy.Arn
import AccessPolicy.FieldFault

/-! Principals that make requests, and the lists of principals that policies name. -/

namespace AccessPolicy

/-- The kinds of principals. -/
inductive PrincipalKind where
  | aws
  | canonicalUser
  | federated
  | service
  deriving Repr, DecidableEq

namespace PrincipalKind

/-- All kinds in their usual order. -/
def all : List PrincipalKind := [.aws, .canonicalUser, .federated, .service]

/-- The name of a kind in policies. -/
def name : PrincipalKind → String
  -- Names tell letter case apart.
  | .aws => "AWS"
  | .canonicalUser => "CanonicalUser"
  | .federated => "Federated"
  | .service => "Service"

/-- The kinds under their names. -/
def named : List (String × PrincipalKind) :=
  -- No two kinds share a name.
  all.map fun kind => (kind.name, kind)

end PrincipalKind

/-- A principal that makes a request. -/
structure Principal where
  kind : PrincipalKind
  value : String
  deriving Repr, DecidableEq

namespace Principal

/-- The text of a principal: its kind and its value. -/
def text (principal : Principal) : String :=
  -- The kind has no colon in it.
  principal.kind.name ++ ":" ++ principal.value

/-- Reads a principal from its fields. -/
def ofFields (members : List (String × Json)) : Checked Principal :=
  -- A value of at least one character is needed.
  match Checked.both (Checked.choice "kind" PrincipalKind.named (Json.find? "kind" members))
      (Checked.filledText "value" (Json.find? "value" members)) with
  | .ok (kind, value) => .ok ⟨kind, value⟩
  | .error faults => .error faults

end Principal

/-- Principals listed by kind. -/
structure PrincipalLists where
  aws : List String
  canonicalUser : List String
  federated : List String
  service : List String
  deriving Repr, DecidableEq

namespace PrincipalLists

/-- No principals at all. -/
def empty : PrincipalLists := ⟨[], [], [], []⟩

/-- The principals listed for a kind. -/
def of (lists : PrincipalLists) : PrincipalKind → List String
  -- Every kind has a list of its own.
  | .aws => lists.aws
  | .canonicalUser => lists.canonicalUser
  | .federated => lists.federated
  | .service => lists.service

/-- Sets the principals listed for a kind. -/
def set (lists : PrincipalLists) (kind : PrincipalKind) (entries : List String) :
    PrincipalLists :=
  -- The other lists stay as they are.
  match kind with
  | .aws => { lists with aws := entries }
  | .canonicalUser => { lists with canonicalUser := entries }
  | .federated => { lists with federated := entries }
  | .service => { lists with service := entries }

/-- Whether no list has an entry. -/
def isEmpty (lists : PrincipalLists) : Bool :=
  -- All four have to be empty.
  PrincipalKind.all.all fun kind => (lists.of kind).isEmpty

end PrincipalLists

/-- The principals that a statement names: all of them, or those in the lists. -/
inductive PrincipalBlock where
  | everyone
  | listed (lists : PrincipalLists)
  deriving Repr, DecidableEq

namespace PrincipalBlock

/-- The principals of a block as lists, which are empty where the block names everyone. -/
def lists : PrincipalBlock → PrincipalLists
  -- The wildcard stands in no list.
  | .everyone => .empty
  | .listed lists => lists

/-- Builds a block from a wildcard and lists, of which exactly one has to name principals. -/
def make (wildcard : Bool) (lists : PrincipalLists) : Checked PrincipalBlock :=
  -- The rule concerns the block as a whole.
  if wildcard then
    if lists.isEmpty then .ok .everyone
    else .error [⟨[], .refused "Wildcard principal cannot be combined with typed principals"⟩]
  else if lists.isEmpty then
    .error [⟨[], .refused "Principal block must name at least one principal"⟩]
  else .ok (.listed lists)

/-- Reads a block from its fields. -/
def ofFields (members : List (String × Json)) : Checked PrincipalBlock := do
  -- The fields are checked before the rule for all of them.
  let field (name : String) := Checked.textsOrNone name (Json.find? name members)
  let (wildcard, (aws, canonicalUser), federated, service) ← Checked.both
    (Checked.truth "wildcard" (Json.find? "wildcard" members))
    (Checked.both (Checked.both (field "aws") (field "canonical_user"))
      (Checked.both (field "federated") (field "service")))
  make wildcard ⟨aws, canonicalUser, federated, service⟩

/-- The written name of a principal of an account, of which a bare number is the root user. -/
def fullName (candidate : String) : String :=
  -- Numbers stand for the partition of the public cloud.
  if Arn.isAccountId candidate then Arn.accountRoot candidate "aws" else candidate

/-- Whether a pattern for principals of accounts matches one of them. -/
def acceptsAws (pattern candidate : String) : Bool :=
  -- A bare account number as a pattern covers everyone in the account.
  if pattern = Arn.wildcard then true
  else match Arn.read? (fullName candidate) with
    | none => false
    | some arn =>
      if Arn.isAccountId pattern then arn.account == pattern
      else Glob.accepts pattern (fullName candidate)

/-- Whether an entry of a list matches a principal of the list's kind. -/
def acceptsEntry (kind : PrincipalKind) (pattern candidate : String) : Bool :=
  -- Only principals of accounts have names with parts.
  match kind with
  | .aws => acceptsAws pattern candidate
  | _ => Glob.accepts pattern candidate

/-- Whether a block names a principal. -/
def accepts (block : PrincipalBlock) (principal : Principal) : Bool :=
  -- The wildcard among the principals of accounts stands for principals of every kind.
  match block with
  | .everyone => true
  | .listed lists =>
    lists.aws.contains Arn.wildcard
      || (lists.of principal.kind).any fun pattern =>
        acceptsEntry principal.kind pattern principal.value

end PrincipalBlock

end AccessPolicy
