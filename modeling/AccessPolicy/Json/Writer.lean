import AccessPolicy.Json.Value
import AccessPolicy.Number.Shortest
import AccessPolicy.Text.Reserve

/-! Writing of JSON in printable ASCII on one line. -/

namespace AccessPolicy.Json

/-- Floating-point numbers are written like those of messages, but for those without digits. -/
def writtenNumber : Number.Layout where
  leastPositional := -4
  greatestPositional := 15
  exponentWidth := 2
  infinity := "Infinity"
  notANumber := "NaN"

/-- A character between quotation marks. -/
def writeChar (reserve : Text.Reserve) (c : Char) : List Char :=
  -- Characters beyond the basic plane take a pair of units, unless they stand for half of one.
  if c = '"' then ['\\', '"']
  else if c = '\\' then ['\\', '\\']
  else if c = '\n' then ['\\', 'n']
  else if c = '\r' then ['\\', 'r']
  else if c = '\t' then ['\\', 't']
  else if c.toNat = 0x08 then ['\\', 'b']
  else if c.toNat = 0x0C then ['\\', 'f']
  else if 0x20 ≤ c.toNat ∧ c.toNat ≤ 0x7E then [c]
  else if c.toNat ≤ 0xFFFF then Text.unitEscape c.toNat
  else match reserve.half? c with
    | some unit => Text.unitEscape unit
    | none =>
      let beyond := c.toNat - 0x10000
      Text.unitEscape (0xD800 + beyond / 1024) ++ Text.unitEscape (0xDC00 + beyond % 1024)

/-- A string between quotation marks. -/
def writeString (reserve : Text.Reserve) (text : String) : List Char :=
  -- Every character is escaped on its own.
  '"' :: text.toList.flatMap (writeChar reserve) ++ ['"']

mutual

/-- The written form of a value, with a reserve for halves of surrogate pairs. -/
def write (reserve : Text.Reserve) : Json → List Char
  -- A blank follows every comma and colon.
  | .null => "null".toList
  | .bool truth => if truth then "true".toList else "false".toList
  | .int number => Number.intNumeral number
  | .float number => writtenNumber.text number
  | .string text => writeString reserve text
  | .array items => '[' :: writeItems reserve items ++ [']']
  | .object members => '\x7b' :: writeMembers reserve members ++ ['\x7d']

/-- The written forms of the items of an array. -/
def writeItems (reserve : Text.Reserve) : List Json → List Char
  -- Commas stand between items.
  | [] => []
  | [item] => write reserve item
  | item :: later => write reserve item ++ ',' :: ' ' :: writeItems reserve later

/-- The written forms of the members of an object. -/
def writeMembers (reserve : Text.Reserve) : List (String × Json) → List Char
  -- Commas stand between members.
  | [] => []
  | [(name, value)] => writeString reserve name ++ ':' :: ' ' :: write reserve value
  | (name, value) :: later =>
    writeString reserve name ++ ':' :: ' ' :: write reserve value ++ ',' :: ' ' ::
      writeMembers reserve later

end

/-- The written form of a value as a string. -/
def text (reserve : Text.Reserve) (value : Json) : String :=
  -- Strings are texts.
  String.ofList (write reserve value)

end AccessPolicy.Json
