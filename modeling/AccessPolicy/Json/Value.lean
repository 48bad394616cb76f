import AccessPolicy.Number.Binary64

/-! Values of JSON documents, with the members of objects in the order of the text. -/

namespace AccessPolicy

/-- A JSON value, in which whole numbers and floating-point numbers are told apart. -/
inductive Json where
  | null
  | bool (truth : Bool)
  | int (number : Int)
  | float (number : Number.Binary64)
  | string (text : String)
  | array (items : List Json)
  | object (members : List (String × Json))
  deriving Repr

namespace Json

/-- A set of named entries in the order in which their names first appeared. -/
abbrev Members (α : Type) := List (String × α)

/-- Gives a name an entry, in its old place if it had one and else behind all others. -/
def put {α : Type} (name : String) (entry : α) : Members α → Members α
  -- The first entry of a name is the only one.
  | [] => [(name, entry)]
  | (other, old) :: later =>
    if other = name then (name, entry) :: later else (other, old) :: put name entry later

/-- The entry of a name. -/
def find? {α : Type} (name : String) (members : Members α) : Option α :=
  -- Names are told apart exactly.
  members.lookup name

/-- The names of entries. -/
def names {α : Type} (members : Members α) : List String :=
  -- They are in the order of the entries.
  members.map Prod.fst

/-- The text of a string value. -/
def string? : Json → Option String
  -- No other value is taken for a text.
  | .string text => some text
  | _ => none

mutual

/-- Whether all whole numbers within a value can be written. -/
def isWritable : Json → Bool
  -- Numbers of the other kind have few digits.
  | .int number => Number.isShort number
  | .array items => areWritable items
  | .object members => haveWritable members
  | .null | .bool _ | .float _ | .string _ => true

/-- Whether the whole numbers within all items can be written. -/
def areWritable : List Json → Bool
  -- One item can be too much for the whole list.
  | [] => true
  | item :: later => isWritable item && areWritable later

/-- Whether the whole numbers within all members can be written. -/
def haveWritable : List (String × Json) → Bool
  -- Names are no numbers.
  | [] => true
  | (_, value) :: later => isWritable value && haveWritable later

end

end Json

end AccessPolicy
