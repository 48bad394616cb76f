import AccessPolicy.Number.Numeral
import AccessPolicy.Text.Blank
import AccessPolicy.Text.Cut

/-! Whole numbers in the many ways in which they are written. -/

namespace AccessPolicy.Number

/-- Why a text is not read as a whole number. -/
inductive WrittenFault where
  | unreadable
  | tooLong
  deriving Repr, DecidableEq

namespace Written

/-- What follows leading zeros, of which the last one stays where no other digit follows. -/
def behindZeros? (last : Char) : List Char → Option (List Char)
  -- Underscores may stand between the zeros, and a negative number behind them.
  | [] => some [last]
  | c :: later =>
    if c = '0' || c = '_' then behindZeros? c later
    else if c = '.' then some (last :: c :: later)
    else if c = '-' || c.isDigit then some (c :: later)
    else none

/-- A text that starts with a digit, without leading zeros. -/
def withoutZeros? : List Char → Option (List Char)
  -- No sign is left in front of the digit.
  | [] => none
  | c :: later =>
    if c = '0' then behindZeros? c later
    else if c.isDigit then some (c :: later)
    else none

/-- A text without a point that only zeros follow. -/
def withoutFraction (chars : List Char) : List Char :=
  -- Other fractions stay, even an empty one, and so the text is not read.
  match Text.cut '.' chars with
  | (whole, some fraction) =>
    if !fraction.isEmpty && fraction.all (· = '0') then whole else chars
  | (_, none) => chars

/-- Whether underscores stand at an end of a text or next to each other. -/
def hasLooseUnderscore (chars : List Char) : Bool :=
  -- Neighbours are the pairs of a character and the one behind it.
  chars.head? == some '_' || chars.getLast? == some '_'
    || (chars.zip chars.tail).any fun pair => pair.1 = '_' && pair.2 = '_'

/-- A text without underscores, if each of them stands between other characters. -/
def withoutUnderscores (chars : List Char) : List Char :=
  -- A text that keeps an underscore is not read.
  if hasLooseUnderscore chars then chars else chars.filter (· ≠ '_')

/-- Reads digits behind a sign that takes up some characters. -/
def readDigits (sign : Nat) (chars : List Char) : Except WrittenFault Nat :=
  -- Too many digits are refused before what follows them is looked at.
  let digits := chars.takeWhile Char.isDigit
  if digits.head? = some '0' then if chars = ['0'] then .ok 0 else .error .unreadable
  else if longestNumeral < sign + digits.length then .error .tooLong
  else if digits.isEmpty || digits.length < chars.length then .error .unreadable
  else .ok (ofDigits (digits.map fun digit => digit.toNat - 48))

/-- Reads a numeral that has no more to it than digits and the sign of a negative number. -/
def readNumeral : List Char → Except WrittenFault Int
  -- The sign counts as a digit.
  | '-' :: later => (readDigits 1 later).map fun number => -(number : Int)
  | chars => (readDigits 0 chars).map fun number => (number : Int)

/-- A text that starts with a digit, in its plainest spelling. -/
def plain? (chars : List Char) : Option (List Char) :=
  -- Zeros and underscores do not change the number.
  (withoutZeros? chars).map fun chars => withoutUnderscores (withoutFraction chars)

/-- A text that may have a sign, in its plainest spelling. -/
def signed? : List Char → Option (List Char)
  -- Only the sign of a negative number is part of its plainest spelling.
  | '+' :: later => plain? later
  | '-' :: later => (plain? later).map ('-' :: ·)
  | chars => plain? chars

/-- Reads a whole number. -/
def read (text : String) : Except WrittenFault Int :=
  -- White space around the number does not count.
  match signed? (Text.trimOf Text.isWhite text.toList) with
  | none => .error .unreadable
  | some chars => readNumeral chars

end Written

end AccessPolicy.Number
