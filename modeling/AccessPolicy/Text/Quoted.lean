import AccessPolicy.Text.Digit
import AccessPolicy.Text.Printable

/-! Text quoted for messages, so that its ends and its invisible characters show. -/

namespace AccessPolicy.Text

/-- The quotation mark for a text: the single one, unless only the double one is free. -/
def quoteMark (chars : List Char) : Char :=
  -- A text with both marks in it is quoted singly and its single marks are escaped.
  if chars.contains '\x27' && !chars.contains '"' then '"' else '\x27'

/-- The numbered escape of a character, with as few hexadecimal digits as its plane needs. -/
def numberedEscape (c : Char) : List Char :=
  -- Two digits reach Latin-1, four the basic plane, eight every character.
  if c.toNat ≤ 0xFF then '\\' :: 'x' :: hexDigits 2 c.toNat
  else if c.toNat ≤ 0xFFFF then '\\' :: 'u' :: hexDigits 4 c.toNat
  else '\\' :: 'U' :: hexDigits 8 c.toNat

/-- A character as it stands between quotation marks. -/
def quotedChar (mark c : Char) : List Char :=
  -- The mark and the escape character need escapes to be read back, invisible ones to be seen.
  if c = mark ∨ c = '\\' then ['\\', c]
  else if c = '\t' then ['\\', 't']
  else if c = '\n' then ['\\', 'n']
  else if c = '\r' then ['\\', 'r']
  else if isPrintable c then [c]
  else numberedEscape c

/-- The characters of a text between quotation marks. -/
def quotedChars (chars : List Char) : List Char :=
  -- The same mark opens and closes.
  let mark := quoteMark chars
  mark :: chars.flatMap (quotedChar mark) ++ [mark]

/-- A string between quotation marks. -/
def quoted (text : String) : String :=
  -- Strings are texts.
  String.ofList (quotedChars text.toList)

end AccessPolicy.Text
