import AccessPolicy.Number.Numeral
import AccessPolicy.Text.Blank
import AccessPolicy.Text.Digit

/-! Decimal numbers of any size, kept as they are written and compared by value. -/

namespace AccessPolicy.Number

/-- The number `coefficient * 10 ^ exponent`, or its opposite. -/
structure Decimal where
  negative : Bool
  coefficient : Nat
  exponent : Int
  deriving Repr, DecidableEq

namespace Decimal

/-- The greatest power of ten that the first digit of a number may stand for. -/
def greatestMagnitude : Int := 999999999999999999

/-- The least power of ten that the last digit of a number may stand for. -/
def leastExponent : Int := -1999999999999999997

/-- The power of ten that the first digit stands for. -/
def magnitude (number : Decimal) : Int :=
  -- Zero has one digit.
  number.exponent + (digits number.coefficient).length - 1

/-- Whether the exponents of a number are within the range of decimal arithmetic. -/
def inRange (number : Decimal) : Bool :=
  -- The bounds hold for zeros as well.
  number.magnitude ≤ greatestMagnitude && leastExponent ≤ number.exponent

/-- The values of the decimal digits at the start of a text, and the text behind them. -/
def takeDigits : List Char → List Nat × List Char
  -- Digits of every script count.
  | [] => ([], [])
  | c :: rest =>
    match Text.decimalDigit? c with
    | none => ([], c :: rest)
    | some digit => (digit :: (takeDigits rest).1, (takeDigits rest).2)

/-- Whether a text starts with a minus sign, and the text behind a sign. -/
def takeSign : List Char → Bool × List Char
  -- A plus sign may be written.
  | '-' :: rest => (true, rest)
  | '+' :: rest => (false, rest)
  | rest => (false, rest)

/-- Reads the exponent behind the coefficient, which is zero where nothing follows. -/
def readExponent? : List Char → Option Int
  -- An exponent needs at least one digit.
  | [] => some 0
  | mark :: rest =>
    if mark = 'e' ∨ mark = 'E' then
      match takeDigits (takeSign rest).2 with
      | ([], _) => none
      | (ds, []) => some (if (takeSign rest).1 then -(ofDigits ds : Int) else ofDigits ds)
      | (_, _ :: _) => none
    else none

/-- Reads the digits around the point, with the number of those behind it and what follows. -/
def readCoefficient? (chars : List Char) : Option (List Nat × Nat × List Char) :=
  -- A digit is needed on one side of the point.
  match takeDigits chars with
  | (whole, '.' :: rest) =>
    let (fraction, later) := takeDigits rest
    if whole.isEmpty && fraction.isEmpty then none
    else some (whole ++ fraction, fraction.length, later)
  | (whole, rest) => if whole.isEmpty then none else some (whole, 0, rest)

/-- Reads a whole text as a number: sign, digits with a point, exponent. -/
def readPlain? (chars : List Char) : Option Decimal :=
  -- Digits behind the point lower the exponent of the last digit.
  let (negative, unsigned) := takeSign chars
  match readCoefficient? unsigned with
  | none => none
  | some (ds, places, rest) =>
    match readExponent? rest with
    | none => none
    | some exponent =>
      let number : Decimal := ⟨negative, ofDigits ds, exponent - places⟩
      if number.inRange then some number else none

/-- Reads a text with blanks around it as a number. -/
def read? (text : String) : Option Decimal :=
  -- Infinities and values that are no numbers have no digits and so are refused.
  readPlain? (Text.trim text.toList)

/-- Whether the number is zero, with either sign. -/
def isZero (number : Decimal) : Bool :=
  -- The exponent of a zero does not matter.
  number.coefficient == 0

/-- Compares the sizes of two numbers that are not zero. -/
def compareSize (a b : Decimal) : Ordering :=
  -- Equal magnitudes leave exponents that differ by no more than the digits do.
  match compare a.magnitude b.magnitude with
  | .eq =>
    let common := min a.exponent b.exponent
    compare (a.coefficient * Nat.pow 10 (a.exponent - common).toNat)
      (b.coefficient * Nat.pow 10 (b.exponent - common).toNat)
  | order => order

/-- The sign of a number: minus one, zero or one. -/
def sign (number : Decimal) : Int :=
  -- A zero has no sign, however it is written.
  if number.isZero then 0 else if number.negative then -1 else 1

/-- Compares two numbers by value. -/
def compareValue (a b : Decimal) : Ordering :=
  -- Numbers of one sign are compared by size, the negative ones the other way round.
  if a.sign = b.sign then
    if a.isZero then .eq else if a.negative then compareSize b a else compareSize a b
  else compare a.sign b.sign

end Decimal

end AccessPolicy.Number
