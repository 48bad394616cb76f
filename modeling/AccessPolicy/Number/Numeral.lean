/-! Decimal numerals of natural numbers and integers. -/

namespace AccessPolicy.Number

/-- Puts the digits of a number, the highest first, in front of others. -/
def digitsBefore : Nat → Nat → List Nat → List Nat
  -- The fuel is never used up, because a number falls below ten before it is divided that often.
  | 0, number, later => number :: later
  | fuel + 1, number, later =>
    if number < 10 then number :: later
    else digitsBefore fuel (number / 10) (number % 10 :: later)

/-- The decimal digits of a number, the highest first. -/
def digits (number : Nat) : List Nat :=
  -- A number has no more bits than its own value.
  digitsBefore (number.log2 + 1) number []

/-- The greatest number of digits with which whole numbers are read and written. -/
def longestNumeral : Nat := 4300

/-- Whether a whole number can be written. -/
def isShort (number : Int) : Bool :=
  -- The sign takes no digit.
  (digits number.natAbs).length ≤ longestNumeral

/-- The number that a list of digits stands for. -/
def ofDigits (ds : List Nat) : Nat :=
  -- Each digit moves those before it one place up.
  ds.foldl (fun number digit => 10 * number + digit) 0

/-- The character of a digit. -/
def digitChar (digit : Nat) : Char :=
  -- The ten digits are consecutive.
  Char.ofNat (48 + digit)

/-- The numeral of a natural number. -/
def natNumeral (number : Nat) : List Char :=
  -- Zero is the only numeral that starts with a zero.
  (digits number).map digitChar

/-- The numeral of an integer. -/
def intNumeral : Int → List Char
  -- Only negative numbers carry a sign.
  | .ofNat number => natNumeral number
  | .negSucc less => '-' :: natNumeral (less + 1)

/-- The numeral of an integer as a string. -/
def intText (number : Int) : String :=
  -- Strings are texts.
  String.ofList (intNumeral number)

/-- The numeral of a natural number as a string. -/
def natText (number : Nat) : String :=
  -- Strings are texts.
  String.ofList (natNumeral number)

/-- The wording for whole numbers with too many digits, and with what is known about these. -/
def longNumeralText (known : String) : String :=
  -- The limit is one of the language, and can be set there.
  "Exceeds the limit (" ++ natText longestNumeral ++ " digits) for integer string conversion"
    ++ known ++ "; use sys.set_int_max_str_digits() to increase the limit"

/-- A natural number filled up with zeros to a width. -/
def padded (width number : Nat) : List Char :=
  -- Numerals that are already wide enough stay as they are.
  let numeral := natNumeral number
  List.replicate (width - numeral.length) '0' ++ numeral

end AccessPolicy.Number
