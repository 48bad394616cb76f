import AccessPolicy.Glob
import AccessPolicy.Text.Cut
import AccessPolicy.Text.Digit

/-! Resource names of the form `arn:partition:service:region:account:resource`. -/

namespace AccessPolicy

/-- The parts of a resource name, of which only the last may hold colons. -/
structure Arn where
  partition : String
  service : String
  region : String
  account : String
  resource : String
  deriving Repr, DecidableEq

namespace Arn

/-- The pattern that stands for everything. -/
def wildcard : String := "*"

/-- Whether a text starts and is divided like a resource name. -/
def hasShape (text : String) : Bool :=
  -- Six parts take five colons, further ones belong to the last part.
  "arn:".toList.isPrefixOf text.toList && 5 ≤ text.toList.count ':'

/-- Reads a resource name, in which wildcards are characters like any other. -/
def read? (text : String) : Option Arn :=
  -- The first part is the mark that the shape asks for.
  if hasShape text then
    match Text.piecesUpTo ':' 5 text.toList with
    | [_, partition, service, region, account, resource] =>
      some ⟨String.ofList partition, String.ofList service, String.ofList region,
        String.ofList account, String.ofList resource⟩
    | _ => none
  else none

/-- The written form of a resource name. -/
def text (arn : Arn) : String :=
  -- Colons stand between the parts.
  Text.joined ":" ["arn", arn.partition, arn.service, arn.region, arn.account, arn.resource]

/-- Whether a text is an account number of twelve digits. -/
def isAccountId (text : String) : Bool :=
  -- Digits of other scripts do not count.
  text.toList.length = 12 && text.toList.all fun c => (Text.asciiDigit? c).isSome

/-- The written name of the root user of an account. -/
def accountRoot (account : String) (partition : String) : String :=
  -- Identities have no region.
  "arn:" ++ partition ++ ":iam::" ++ account ++ ":root"

/-- Matches the parts one by one, the first two as `names` says. -/
def acceptsParts (names : String → String → Bool) (pattern candidate : Arn) : Bool :=
  -- Wildcards never reach across the colons between the parts.
  names pattern.partition candidate.partition && names pattern.service candidate.service
    && Glob.accepts pattern.region candidate.region
    && Glob.accepts pattern.account candidate.account
    && Glob.accepts pattern.resource candidate.resource

/-- Matches a resource name part by part, with letter case told apart. -/
def accepts (pattern candidate : Arn) : Bool :=
  -- All parts follow one rule.
  acceptsParts Glob.accepts pattern candidate

/-- Matches a resource name part by part, whatever the letter case of partition and service. -/
def acceptsFolded (pattern candidate : Arn) : Bool :=
  -- Region, account and resource keep their letter case.
  acceptsParts Glob.acceptsAnyCase pattern candidate

/-- Whether a written resource pattern matches a resource. -/
def acceptsResource (pattern candidate : String) : Bool :=
  -- Where the whole texts do not match, the parts may still do so with less regard to case.
  if pattern = wildcard then true
  else if Glob.accepts pattern candidate then true
  else match read? pattern, read? candidate with
    | some pattern, some candidate => acceptsFolded pattern candidate
    | _, _ => false

end Arn

end AccessPolicy
