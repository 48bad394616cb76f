import AccessPolicy.Condition.Value
import AccessPolicy.Context
import AccessPolicy.FieldFault

/-! Entries of conditions, and the blocks in which all of them have to hold. -/

namespace AccessPolicy.Condition

/-- Why a condition cannot be decided. -/
inductive Fault where
  | unsettledOperator (raw : String)
  | noExpectedValue
  | presenceOperator
  deriving Repr, DecidableEq

/-- An operator with the name of a context key and the values expected under it. -/
structure Entry where
  operator : OperatorKey
  key : String
  values : List String
  deriving Repr, DecidableEq

/-- Builds an entry from an operator and its other fields. -/
def Entry.make (operator : OperatorKey) (members : List (String × Json)) : Checked Entry :=
  -- The values need not suit the operator.
  (Checked.both (Checked.text "key" (Json.find? "key" members))
    (Checked.texts "values" (Json.find? "values" members))).map
      fun (key, values) => ⟨operator, key, values⟩

/-- Whether some member of a list passes a test that may fail, with later members left untested. -/
def anyUntil {α : Type} (test : α → Except Fault Bool) : List α → Except Fault Bool
  -- The first member that passes settles the question.
  | [] => .ok false
  | member :: later =>
    match test member with
    | .ok true => .ok true
    | .ok false => anyUntil test later
    | .error fault => .error fault

/-- Whether all members of a list pass a test that may fail, where later members are not tested. -/
def allUntil {α : Type} (test : α → Except Fault Bool) : List α → Except Fault Bool
  -- The first member that does not pass settles the question.
  | [] => .ok true
  | member :: later =>
    match test member with
    | .ok true => allUntil test later
    | .ok false => .ok false
    | .error fault => .error fault

/-- Compares one value with the expected ones. -/
def Operator.compare (operator : Operator) (value : String) (expected : List String) :
    Except Fault Bool :=
  -- The test for presence has no way to compare two values that it can read.
  if operator.family = .null then
    let readable (side : Side) (text : String) : Bool := (Value.read? .null side text).isSome
    if readable .actual value && expected.any (readable .expected) then .error .presenceOperator
    else .ok false
  else .ok (operator.holds value expected)

namespace Entry

/-- Refuses an entry whose operator has no settled meaning. -/
def settle (entry : Entry) : Except Fault Unit :=
  -- Neither answer would be safe: one hides a restriction, the other grants access.
  if entry.operator.isUnsettled then .error (.unsettledOperator entry.operator.raw) else .ok ()

/-- Whether a key with these values is as absent as the entry asks for. -/
def presenceHolds (entry : Entry) (values : List String) : Except Fault Bool :=
  -- Only the first expected value counts, and one that is no truth value is never met.
  match entry.values.head? with
  | none => .error .noExpectedValue
  | some expected => .ok (Value.readTruth? expected == some values.isEmpty)

/-- Whether a key that has values satisfies the entry. -/
def valuesHold (entry : Entry) (values : List String) : Except Fault Bool :=
  -- Without a set operator, negated operators ask for all values and the others for one.
  let test (value : String) : Except Fault Bool := entry.operator.base.compare value entry.values
  match entry.operator.quantifier with
  | some .forAllValues => allUntil test values
  | some .forAnyValue => anyUntil test values
  | none => if entry.operator.base.negated then allUntil test values else anyUntil test values

/-- Whether an entry holds in a context. -/
def evaluate (entry : Entry) (context : Context) : Except Fault Bool :=
  -- A key without values counts as absent.
  match entry.settle with
  | .error fault => .error fault
  | .ok () =>
    let values := (context.values? entry.key).getD []
    if entry.operator.base = .null then entry.presenceHolds values
    else if values.isEmpty then
      .ok (entry.operator.ifExists || entry.operator.quantifier == some .forAllValues)
    else entry.valuesHold values

end Entry

/-- Refuses entries of which one has no settled meaning. -/
def settleAll : List Entry → Except Fault Unit
  -- The first such entry is reported.
  | [] => .ok ()
  | entry :: later =>
    match entry.settle with
    | .ok () => settleAll later
    | .error fault => .error fault

/-- Whether all entries of a block hold in a context. -/
def evaluateBlock (entries : List Entry) (context : Context) : Except Fault Bool :=
  -- Every entry is settled before any is evaluated, so the refusal does not depend on the context.
  match settleAll entries with
  | .error fault => .error fault
  | .ok () => allUntil (·.evaluate context) entries

end AccessPolicy.Condition
