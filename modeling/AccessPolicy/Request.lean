import AccessPolicy.Context
import AccessPolicy.Principal

/-! Requests, which policies are evaluated against. -/

namespace AccessPolicy

/-- What a principal wants to do to a resource, and the circumstances. -/
structure Request where
  action : String
  resource : String
  principal : Option Principal
  context : Context
  deriving Repr, DecidableEq

namespace Request

/-- Reads the context of a request, which is empty where it is missing. -/
def contextOf : Option Json → Checked Context
  -- Only objects describe a context.
  | none => .ok Context.empty
  | some (.object members) =>
    match Context.ofMembers members with
    | .ok context => .ok context
    | .error fault => Checked.fail "context_keys" (.refused fault.message)
  | some _ => Checked.fail "context_keys" .notObject

/-- Builds a request whose action, resource and context are still to be checked. -/
def make (action resource : Option Json) (principal : Option Principal)
    (context : Checked Context) : Checked Request :=
  -- The faults of all fields are reported together.
  match Checked.both (Checked.filledText "action" action)
      (Checked.both (Checked.filledText "resource" resource) context) with
  | .ok (action, resource, context) => .ok ⟨action, resource, principal, context⟩
  | .error faults => .error faults

/-- Reads the principal of a request, which may be missing or null. -/
def principalOf : Option Json → Checked (Option Principal)
  -- Without a principal a policy is read as one of an identity.
  | some (.object members) =>
    match Principal.ofFields members with
    | .ok principal => .ok (some principal)
    | .error faults => .error faults
  | none | some .null => .ok none
  | some _ => Checked.fail "principal" .notObject

/-- Reads a request from its fields, of which the principal is checked before all others. -/
def ofFields (members : List (String × Json)) : Checked Request :=
  -- The faults of a principal hide those of the other fields.
  match principalOf (Json.find? "principal" members) with
  | .error faults => .error faults
  | .ok principal =>
    make (Json.find? "action" members) (Json.find? "resource" members) principal
      (contextOf (Json.find? "context_keys" members))

end Request

end AccessPolicy
