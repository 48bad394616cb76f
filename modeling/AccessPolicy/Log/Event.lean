import AccessPolicy.Policy.Document

/-! Events that the log records. -/

namespace AccessPolicy.Log

/-- How much an event matters. -/
inductive Level where
  | debug
  | info
  | warning
  deriving Repr, DecidableEq

namespace Level

/-- The levels, the least first. -/
def all : List Level := [.debug, .info, .warning]

/-- The name of a level. -/
def name : Level → String
  -- Names are written in capitals.
  | .debug => "DEBUG"
  | .info => "INFO"
  | .warning => "WARNING"

/-- The number of a level, which is greater the more its events matter. -/
def number : Level → Nat
  -- The steps leave room for levels between.
  | .debug => 10
  | .info => 20
  | .warning => 30

/-- The levels under their names. -/
def named : List (String × Level) :=
  -- No two levels share a name.
  all.map fun level => (level.name, level)

end Level

/-- What happened while a policy was loaded, read or evaluated. -/
inductive Event where
  | conditionTypeHint (statement : Int) (sid : Option String) (operator key hint : String)
  | policyParsed (version : String) (id : Option String) (statements : Nat)
  | policyLoaded (path : String) (statements : Nat)
  | statementApplicable (label : String) (effect : Policy.Effect)
  | policyDecision (decision : String) (sids : List String) (statements : List Int)
      (action resource : String) (principal : Option String)
  deriving Repr, DecidableEq

namespace Event

/-- How much an event matters. -/
def level : Event → Level
  -- Decisions are worth noting, likely mistakes are worth a warning.
  | .conditionTypeHint .. => .warning
  | .policyDecision .. => .info
  | .policyParsed .. | .policyLoaded .. | .statementApplicable .. => .debug

/-- The part of the program in which an event happens. -/
def component : Event → String
  -- The points divide parts into smaller ones.
  | .conditionTypeHint .. | .policyParsed .. => "pdp.parser"
  | .policyLoaded .. => "utils.policy"
  | .statementApplicable .. | .policyDecision .. => "pdp.engine"

/-- A text or nothing as a value. -/
def optional (text : Option String) : Json :=
  -- Nothing is null.
  (text.map Json.string).getD .null

/-- The named values that describe an event, of which the first names its kind. -/
def fields : Event → List (String × Json)
  -- The order is that of the log line.
  | .conditionTypeHint statement sid operator key hint =>
    [("event", .string "condition_type_hint"), ("statement_index", .int statement),
      ("sid", optional sid), ("operator", .string operator), ("key", .string key),
      ("hint", .string hint)]
  | .policyParsed version id statements =>
    [("event", .string "policy_parsed"), ("version", .string version),
      ("policy_id", optional id), ("statements", .int statements)]
  | .policyLoaded path statements =>
    [("event", .string "policy_loaded"), ("path", .string path), ("statements", .int statements)]
  | .statementApplicable label effect =>
    [("event", .string "statement_applicable"), ("statement", .string label),
      ("effect", .string effect.name)]
  | .policyDecision decision sids statements action resource principal =>
    [("event", .string "policy_decision"), ("decision", .string decision),
      ("deciding_sids", .array (sids.map .string)),
      ("matched_statements", .array (statements.map .int)), ("action", .string action),
      ("resource", .string resource), ("principal", optional principal)]

end Event

end AccessPolicy.Log
