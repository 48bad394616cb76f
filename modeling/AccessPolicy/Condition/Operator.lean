import AccessPolicy.Text.Cut

/-! The operators that conditions compare values with. -/

namespace AccessPolicy.Condition

/-- The kinds of values that operators compare. -/
inductive Family where
  | string
  | stringIgnoreCase
  | stringLike
  | numeric
  | date
  | bool
  | binary
  | ipAddress
  | arn
  | null
  deriving Repr, DecidableEq

/-- The name of a family. -/
def Family.name : Family → String
  -- Words are joined by underscores.
  | .string => "string"
  | .stringIgnoreCase => "string_ignore_case"
  | .stringLike => "string_like"
  | .numeric => "numeric"
  | .date => "date"
  | .bool => "bool"
  | .binary => "binary"
  | .ipAddress => "ip_address"
  | .arn => "arn"
  | .null => "null"

/-- All families in their usual order. -/
def Family.all : List Family :=
  -- The test for presence comes last.
  [.string, .stringIgnoreCase, .stringLike, .numeric, .date, .bool, .binary, .ipAddress, .arn,
    .null]

/-- The ways in which an operator orders two values. -/
inductive Comparison where
  | equal
  | less
  | lessOrEqual
  | greater
  | greaterOrEqual
  deriving Repr, DecidableEq

/-- The name of a comparison. -/
def Comparison.name : Comparison → String
  -- Two letters tell the five apart.
  | .equal => "eq"
  | .less => "lt"
  | .lessOrEqual => "le"
  | .greater => "gt"
  | .greaterOrEqual => "ge"

/-- Whether a comparison accepts an order of the two values. -/
def Comparison.accepts : Comparison → Ordering → Bool
  -- The order is that of the actual value to the expected one.
  | .equal, order => order == .eq
  | .less, order => order == .lt
  | .lessOrEqual, order => order != .gt
  | .greater, order => order == .gt
  | .greaterOrEqual, order => order != .lt

/-- The operators of the policy language. -/
inductive Operator where
  | stringEquals
  | stringNotEquals
  | stringEqualsIgnoreCase
  | stringNotEqualsIgnoreCase
  | stringLike
  | stringNotLike
  | numericEquals
  | numericNotEquals
  | numericLessThan
  | numericLessThanEquals
  | numericGreaterThan
  | numericGreaterThanEquals
  | dateEquals
  | dateNotEquals
  | dateLessThan
  | dateLessThanEquals
  | dateGreaterThan
  | dateGreaterThanEquals
  | bool
  | binaryEquals
  | ipAddress
  | notIpAddress
  | arnEquals
  | arnLike
  | arnNotEquals
  | arnNotLike
  | null
  deriving Repr, DecidableEq

namespace Operator

/-- All operators in their usual order. -/
def all : List Operator :=
  -- Operators of one family stand together.
  [.stringEquals, .stringNotEquals, .stringEqualsIgnoreCase, .stringNotEqualsIgnoreCase,
    .stringLike, .stringNotLike, .numericEquals, .numericNotEquals, .numericLessThan,
    .numericLessThanEquals, .numericGreaterThan, .numericGreaterThanEquals, .dateEquals,
    .dateNotEquals, .dateLessThan, .dateLessThanEquals, .dateGreaterThan,
    .dateGreaterThanEquals, .bool, .binaryEquals, .ipAddress, .notIpAddress, .arnEquals,
    .arnLike, .arnNotEquals, .arnNotLike, .null]

/-- The name of an operator in a policy. -/
def name : Operator → String
  -- Names tell letter case apart.
  | .stringEquals => "StringEquals"
  | .stringNotEquals => "StringNotEquals"
  | .stringEqualsIgnoreCase => "StringEqualsIgnoreCase"
  | .stringNotEqualsIgnoreCase => "StringNotEqualsIgnoreCase"
  | .stringLike => "StringLike"
  | .stringNotLike => "StringNotLike"
  | .numericEquals => "NumericEquals"
  | .numericNotEquals => "NumericNotEquals"
  | .numericLessThan => "NumericLessThan"
  | .numericLessThanEquals => "NumericLessThanEquals"
  | .numericGreaterThan => "NumericGreaterThan"
  | .numericGreaterThanEquals => "NumericGreaterThanEquals"
  | .dateEquals => "DateEquals"
  | .dateNotEquals => "DateNotEquals"
  | .dateLessThan => "DateLessThan"
  | .dateLessThanEquals => "DateLessThanEquals"
  | .dateGreaterThan => "DateGreaterThan"
  | .dateGreaterThanEquals => "DateGreaterThanEquals"
  | .bool => "Bool"
  | .binaryEquals => "BinaryEquals"
  | .ipAddress => "IpAddress"
  | .notIpAddress => "NotIpAddress"
  | .arnEquals => "ArnEquals"
  | .arnLike => "ArnLike"
  | .arnNotEquals => "ArnNotEquals"
  | .arnNotLike => "ArnNotLike"
  | .null => "Null"

/-- The operator of a name. -/
def ofName? (name : String) : Option Operator :=
  -- No two operators share a name.
  all.find? fun operator => operator.name == name

/-- The kind of values that an operator compares. -/
def family : Operator → Family
  -- The two resource-name operators without and with wildcards are one and the same.
  | .stringEquals | .stringNotEquals => .string
  | .stringEqualsIgnoreCase | .stringNotEqualsIgnoreCase => .stringIgnoreCase
  | .stringLike | .stringNotLike => .stringLike
  | .numericEquals | .numericNotEquals | .numericLessThan | .numericLessThanEquals
  | .numericGreaterThan | .numericGreaterThanEquals => .numeric
  | .dateEquals | .dateNotEquals | .dateLessThan | .dateLessThanEquals
  | .dateGreaterThan | .dateGreaterThanEquals => .date
  | .bool => .bool
  | .binaryEquals => .binary
  | .ipAddress | .notIpAddress => .ipAddress
  | .arnEquals | .arnLike | .arnNotEquals | .arnNotLike => .arn
  | .null => .null

/-- The order of values that an operator asks for. -/
def comparison : Operator → Comparison
  -- Only numbers and dates are ordered.
  | .numericLessThan | .dateLessThan => .less
  | .numericLessThanEquals | .dateLessThanEquals => .lessOrEqual
  | .numericGreaterThan | .dateGreaterThan => .greater
  | .numericGreaterThanEquals | .dateGreaterThanEquals => .greaterOrEqual
  | _ => .equal

/-- Whether an operator holds where no expected value matches. -/
def negated : Operator → Bool
  -- These are the operators with a negation in their names.
  | .stringNotEquals | .stringNotEqualsIgnoreCase | .stringNotLike | .numericNotEquals
  | .dateNotEquals | .notIpAddress | .arnNotEquals | .arnNotLike => true
  | _ => false

end Operator

/-- The set operators for keys with several values. -/
inductive Quantifier where
  | forAllValues
  | forAnyValue
  deriving Repr, DecidableEq

/-- The name of a set operator. -/
def Quantifier.name : Quantifier → String
  -- The second also has a spelling in the plural.
  | .forAllValues => "ForAllValues"
  | .forAnyValue => "ForAnyValue"

/-- An operator as a condition names it, with what stands around its name. -/
structure OperatorKey where
  raw : String
  base : Operator
  ifExists : Bool
  quantifier : Option Quantifier
  deriving Repr, DecidableEq

/-- Why a text names no operator. -/
inductive OperatorFault where
  | unknown (name : String)
  | qualifiedNull
  deriving Repr, DecidableEq

namespace OperatorKey

/-- The text behind a beginning, if it has that beginning. -/
def behind? (beginning : String) (chars : List Char) : Option (List Char) :=
  -- The text may consist of the beginning alone.
  if beginning.toList.isPrefixOf chars then some (chars.drop beginning.toList.length) else none

/-- The set operator at the start of a key, and the text behind it. -/
def takeQuantifier (chars : List Char) : Option Quantifier × List Char :=
  -- At most one set operator is taken off.
  match behind? "ForAllValues:" chars with
  | some rest => (some .forAllValues, rest)
  | none =>
    match (behind? "ForAnyValue:" chars).or (behind? "ForAnyValues:" chars) with
    | some rest => (some .forAnyValue, rest)
    | none => (none, chars)

/-- The ending of operators that hold where the key is absent. -/
def ifExistsEnding : List Char := "IfExists".toList

/-- Whether that ending is there, and the text before it. -/
def takeIfExists (chars : List Char) : Bool × List Char :=
  -- At most one ending is taken off.
  if ifExistsEnding.isSuffixOf chars then
    (true, chars.take (chars.length - ifExistsEnding.length))
  else (false, chars)

/-- Reads an operator key: set operator, name, ending. -/
def read (raw : String) : Except OperatorFault OperatorKey :=
  -- The test for presence is not about values, so neither addition makes sense with it.
  let (quantifier, rest) := takeQuantifier raw.toList
  let (ifExists, name) := takeIfExists rest
  match Operator.ofName? (String.ofList name) with
  | none => .error (.unknown (String.ofList name))
  | some base =>
    if base = .null ∧ (ifExists ∨ quantifier.isSome) then .error .qualifiedNull
    else .ok ⟨raw, base, ifExists, quantifier⟩

/-- Whether the key sets a quantifier on a negated operator, which has no settled meaning. -/
def isUnsettled (key : OperatorKey) : Bool :=
  -- Each of the two alone is clear.
  key.quantifier.isSome && key.base.negated

end OperatorKey

end AccessPolicy.Condition
