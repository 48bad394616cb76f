import AccessPolicy.Json.Value
import AccessPolicy.Number.Shortest
import AccessPolicy.Text.Quoted

/-! JSON values as messages show them, with texts in quotation marks. -/

namespace AccessPolicy.Json

/-- Floating-point numbers are positional from a ten-thousandth to just below `10 ^ 16`. -/
def displayedNumber : Number.Layout where
  leastPositional := -4
  greatestPositional := 15
  exponentWidth := 2
  infinity := "inf"
  notANumber := "nan"

/-- The text of a floating-point number in messages. -/
def floatText (number : Number.Binary64) : String :=
  -- The number can be read back from its text.
  String.ofList (displayedNumber.text number)

mutual

/-- The text of a value in messages. -/
def display : Json → String
  -- Arrays and objects keep the order of their parts.
  | .null => "None"
  | .bool truth => if truth then "True" else "False"
  | .int number => Number.intText number
  | .float number => floatText number
  | .string text => Text.quoted text
  | .array items => "[" ++ ", ".intercalate (displayItems items) ++ "]"
  | .object members => "\x7b" ++ ", ".intercalate (displayMembers members) ++ "\x7d"

/-- The texts of the items of an array. -/
def displayItems : List Json → List String
  -- Each item is shown on its own.
  | [] => []
  | item :: later => display item :: displayItems later

/-- The texts of the members of an object. -/
def displayMembers : List (String × Json) → List String
  -- The name stands before the value.
  | [] => []
  | (name, value) :: later => (Text.quoted name ++ ": " ++ display value) :: displayMembers later

end

end AccessPolicy.Json
