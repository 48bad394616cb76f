import AccessPolicy.Request

/-! Requests put together from options, of which some may not be given. -/

namespace AccessPolicy

/-- What the options give of a request, with a value for each kind of principal that is given. -/
structure RequestDraft where
  action : Option String
  resource : Option String
  principals : List (String × Option String)
  context : Context
  deriving Repr, DecidableEq

namespace RequestDraft

/-- Why a draft leads to no request. -/
inductive Fault where
  | severalPrincipals (kinds : List String)
  | principalAlone
  | incomplete
  | invalid (faults : List FieldFault)
  deriving Repr, DecidableEq

/-- The wording of a fault. -/
def Fault.message : Fault → String
  -- Invalid fields are only named.
  | .severalPrincipals kinds =>
    "At most one principal may be given, got: " ++ Text.joined ", " kinds
  | .principalAlone => "A principal requires --action and --resource"
  | .incomplete => "--action and --resource must be given together"
  | .invalid faults =>
    "Invalid request arguments: " ++ Text.joined ", " (faults.map FieldFault.placeText)

/-- The principals that are given, with their kinds. -/
def given (draft : RequestDraft) : List (String × String) :=
  -- An empty value is given too.
  draft.principals.filterMap fun principal => principal.2.map fun value => (principal.1, value)

/-- The principal of a kind and a value. -/
def principalOf (kind value : String) : Checked Principal :=
  -- The fields are those of a principal in a request.
  Principal.ofFields [("kind", .string kind), ("value", .string value)]

/-- The first of the principals that are given. -/
def principal? (draft : RequestDraft) : Checked (Option Principal) :=
  -- A draft without a principal is one of an identity.
  match draft.given with
  | [] => .ok none
  | (kind, value) :: _ => (principalOf kind value).map some

/-- The request of a draft whose action and resource are given. -/
def complete (draft : RequestDraft) (action resource : String) : Checked Request :=
  -- The faults of the principal hide those of the other fields.
  match draft.principal? with
  | .error faults => .error faults
  | .ok principal =>
    Request.make (some (.string action)) (some (.string resource)) principal (.ok draft.context)

/-- The request of a draft, or none where neither action nor resource are given. -/
def request? (draft : RequestDraft) : Except Fault (Option Request) :=
  -- The number of principals is checked before all else.
  if 1 < draft.given.length then .error (.severalPrincipals (draft.given.map Prod.fst))
  else match draft.action, draft.resource with
    | none, none => if draft.given.isEmpty then .ok none else .error .principalAlone
    | some action, some resource =>
      match draft.complete action resource with
      | .ok request => .ok (some request)
      | .error faults => .error (.invalid faults)
    | _, _ => .error .incomplete

end RequestDraft

end AccessPolicy
