import AccessPolicy.Arn
import AccessPolicy.Base64
import AccessPolicy.Condition.Operator
import AccessPolicy.Net.Network
import AccessPolicy.Text.CaseFold
import AccessPolicy.Time.Timestamp

/-! Values of conditions, read as an operator's family asks for. -/

namespace AccessPolicy.Condition

/-- The two sides of a comparison: the value of a request and the one written in the policy. -/
inductive Side where
  | actual
  | expected
  deriving Repr, DecidableEq

/-- A value with the type that its operator compares. -/
inductive Value where
  | text (text : String)
  | number (number : Number.Decimal)
  | instant (instant : Time.Instant)
  | truth (truth : Bool)
  | bytes (bytes : List UInt8)
  | address (address : Net.Address)
  | network (network : Net.Network)
  | arn (arn : Arn)
  deriving Repr, DecidableEq

namespace Value

/-- Reads a truth value in any letter case, with blanks around it. -/
def readTruth? (text : String) : Option Bool :=
  -- Numbers and other words are no truth values.
  let word := Text.lowerChars (Text.trim text.toList)
  if word = "true".toList then some true
  else if word = "false".toList then some false
  else none

/-- Reads a value for a family of operators. -/
def read? : Family → Side → String → Option Value
  -- A policy names blocks of addresses, a request single ones.
  | .string, _, written | .stringIgnoreCase, _, written | .stringLike, _, written =>
    some (.text written)
  | .numeric, _, written => (Number.Decimal.read? written).map .number
  | .date, _, written => (Time.Timestamp.read? written).map .instant
  | .bool, _, written | .null, _, written => (readTruth? written).map .truth
  | .binary, _, written => (Base64.decode? written).map .bytes
  | .ipAddress, .actual, written => (Net.Address.read? (Text.trim written.toList)).map .address
  | .ipAddress, .expected, written => (Net.Network.read? (Text.trim written.toList)).map .network
  | .arn, _, written => (Arn.read? written).map .arn

end Value

namespace Operator

/-- Whether an actual value matches an expected one, with any negation left aside. -/
def accepts (operator : Operator) : Value → Value → Bool
  -- Texts are compared in three ways, all other values in the way of their type.
  | .text actual, .text expected =>
    match operator.family with
    | .stringIgnoreCase => Text.caseFold actual == Text.caseFold expected
    | .stringLike => Glob.accepts expected actual
    | _ => actual == expected
  | .number actual, .number expected => operator.comparison.accepts (actual.compareValue expected)
  | .instant actual, .instant expected => operator.comparison.accepts (actual.compareTime expected)
  | .truth actual, .truth expected => actual == expected
  | .bytes actual, .bytes expected => actual == expected
  | .address actual, .network expected => expected.contains actual
  | .arn actual, .arn expected => expected.accepts actual
  | _, _ => false

/-- Whether an actual value matches an expected text, which may also be the wildcard for names. -/
def acceptsText (operator : Operator) (actual : Value) (expected : String) : Bool :=
  -- A text that is no value of the family matches nothing.
  if operator.family = .arn ∧ expected = Arn.wildcard then true
  else match Value.read? operator.family .expected expected with
    | some expected => operator.accepts actual expected
    | none => false

/-- Whether an operator other than the test for presence holds of a value and expected texts. -/
def holds (operator : Operator) (value : String) (expected : List String) : Bool :=
  -- A value that is not one of the family satisfies no operator, not even a negated one.
  match Value.read? operator.family .actual value with
  | none => false
  | some actual => (expected.any (operator.acceptsText actual)) != operator.negated

end Operator

end AccessPolicy.Condition
