import AccessPolicy.Condition.Entry
import AccessPolicy.Principal

/-! Policy documents and their statements. -/

namespace AccessPolicy.Policy

/-- What a statement does to the requests that it applies to. -/
inductive Effect where
  | allow
  | deny
  deriving Repr, DecidableEq

namespace Effect

/-- The name of an effect in policies. -/
def name : Effect → String
  -- Names tell letter case apart.
  | .allow => "Allow"
  | .deny => "Deny"

/-- The effects under their names. -/
def named : List (String × Effect) := [("Allow", .allow), ("Deny", .deny)]

end Effect

/-- What an element of a statement names: the things it covers, or those it leaves out. -/
inductive Selection (α : Type) where
  | only (named : α)
  | allBut (named : α)
  deriving Repr, DecidableEq

namespace Selection

/-- What the element names, whichever way it is meant. -/
def named {α : Type} : Selection α → α
  -- The two ways name things alike.
  | .only named | .allBut named => named

/-- What an element names if it covers that. -/
def covered? {α : Type} : Selection α → Option α
  -- Things left out are not covered.
  | .only named => some named
  | .allBut _ => none

/-- What an element names if it leaves that out. -/
def leftOut? {α : Type} : Selection α → Option α
  -- Things covered are not left out.
  | .only _ => none
  | .allBut named => some named

/-- Whether an element covers something, given whether what it names matches. -/
def covers {α : Type} (selection : Selection α) (accepts : α → Bool) : Bool :=
  -- Leaving out turns the answer round.
  match selection with
  | .only named => accepts named
  | .allBut named => !accepts named

end Selection

/-- A statement: its effect and the requests that it applies to. -/
structure Statement where
  index : Int
  sid : Option String
  effect : Effect
  action : Selection (List String)
  resource : Selection (List String)
  principal : Option (Selection PrincipalBlock)
  condition : Option (List Condition.Entry)
  deriving Repr, DecidableEq

/-- The place of a statement that a numeral tells. -/
def placeTextOf (numeral : String) : String :=
  -- The numeral stands in brackets.
  "Statement[" ++ numeral ++ "]"

/-- The place of a statement in its document, counted from zero. -/
def placeText (index : Int) : String :=
  -- Places are written in decimal.
  placeTextOf (Number.intText index)

namespace Statement

/-- The identifier of a statement, or its place where it has none. -/
def label (statement : Statement) : String :=
  -- An empty identifier identifies nothing.
  match statement.sid with
  | none | some "" => placeText statement.index
  | some sid => sid

/-- The patterns of a statement in both spellings of each element. -/
structure Patterns where
  action : Option (List String)
  notAction : Option (List String)
  resource : Option (List String)
  notResource : Option (List String)
  deriving Repr, DecidableEq

/-- Reads the patterns of a statement from its fields. -/
def Patterns.ofFields (members : List (String × Json)) : Checked Patterns :=
  -- Each spelling may be missing.
  let field (name : String) := Checked.optionalTexts name (Json.find? name members)
  (Checked.both (Checked.both (field "action") (field "not_action"))
    (Checked.both (field "resource") (field "not_resource"))).map
      fun ((action, notAction), resource, notResource) =>
        ⟨action, notAction, resource, notResource⟩

/-- A fault of a statement as a whole. -/
def refused {α : Type} (reason : String) : Checked α :=
  -- The rule concerns no field alone.
  .error [⟨[], .refused reason⟩]

/-- Joins the two spellings of an element into one selection of patterns. -/
def selectPatterns (name : String) (covered leftOut : Option (List String)) :
    Checked (Selection (List String)) :=
  -- Exactly one spelling is needed, with at least one pattern.
  match covered, leftOut with
  | some [], none | none, some [] => refused (name ++ " patterns must not be empty")
  | some patterns, none => .ok (.only patterns)
  | none, some patterns => .ok (.allBut patterns)
  | _, _ => refused ("Exactly one of " ++ name ++ " or not_" ++ name ++ " must be set")

/-- Joins the two spellings of the principal element, which may both be missing. -/
def selectPrincipal (covered leftOut : Option PrincipalBlock) :
    Checked (Option (Selection PrincipalBlock)) :=
  -- At most one spelling is allowed.
  match covered, leftOut with
  | some _, some _ => refused "principal and not_principal cannot both be set"
  | some block, none => .ok (some (.only block))
  | none, some block => .ok (some (.allBut block))
  | none, none => .ok none

/-- Builds a statement from its fields, its principals and its condition. -/
def make (members : List (String × Json)) (named leftOut : Option PrincipalBlock)
    (condition : Option (List Condition.Entry)) : Checked Statement := do
  -- All fields are checked before the rules for several of them, of which one is reported.
  let index := Checked.wholeNumber "index" (Json.find? "index" members)
  let sid := Checked.optionalText "sid" (Json.find? "sid" members)
  let effect := Checked.choice "effect" Effect.named (Json.find? "effect" members)
  let (index, sid, effect, patterns) ← Checked.both index
    (Checked.both sid (Checked.both effect (Patterns.ofFields members)))
  let action ← selectPatterns "action" patterns.action patterns.notAction
  let resource ← selectPatterns "resource" patterns.resource patterns.notResource
  let principal ← selectPrincipal named leftOut
  return ⟨index, sid, effect, action, resource, principal, condition⟩

end Statement

/-- A policy document with its statements in order. -/
structure Document where
  version : String
  id : Option String
  statements : List Statement
  deriving Repr, DecidableEq

namespace Document

/-- Builds a document from its fields and its statements. -/
def make (members : List (String × Json)) (statements : List Statement) : Checked Document :=
  -- A document may have no statements.
  (Checked.both (Checked.text "version" (Json.find? "version" members))
    (Checked.optionalText "id" (Json.find? "id" members))).map
      fun (version, id) => ⟨version, id, statements⟩

end Document

end AccessPolicy.Policy
