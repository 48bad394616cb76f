import AccessPolicy.Number.Shortest

/-! Decimal texts of binary numbers with a given number of digits. -/

namespace AccessPolicy.Number

/-- The multiple of `10 ^ (-places)` nearest to `significand * 2 ^ exponent`, as a count. -/
def nearestMultiple (significand : Nat) (exponent places : Int) : Nat :=
  -- Both powers are brought to whole numbers, and the even one of two equally near counts is taken.
  Binary64.divideEven (significand * Nat.pow 2 exponent.toNat * Nat.pow 10 places.toNat)
    (Nat.pow 2 (-exponent).toNat * Nat.pow 10 (-places).toNat)

/-- How a rounded number is written. -/
structure RoundedStyle where
  places : Nat
  keepsPoint : Bool
  deriving Repr, DecidableEq

namespace RoundedStyle

/-- A number of digits that is enough for every finite number: all further digits are zeros. -/
def mostDigits : Nat := 1100

/-- The places that are worked out. -/
def worked (style : RoundedStyle) : Nat :=
  -- The least number ends at the place 1074 behind the point.
  min style.places mostDigits

/-- The zeros in the places that are not worked out. -/
def furtherZeros (style : RoundedStyle) : List Char :=
  -- There are none unless very many places are asked for.
  List.replicate (style.places - style.worked) '0'

/-- Digits in front of a point and behind it. -/
def around (style : RoundedStyle) (whole fraction : List Char) : List Char :=
  -- A point with nothing behind it is written only where it is asked for.
  if fraction.isEmpty && !style.keepsPoint then whole else whole ++ '.' :: fraction

/-- The number with as many digits behind the point as the style has places. -/
def fixed (style : RoundedStyle) (significand : Nat) (exponent : Int) : List Char :=
  -- Zeros in front make sure that a digit stands before the point.
  let numeral := padded (style.worked + 1) (nearestMultiple significand exponent style.worked)
  let whole := numeral.length - style.worked
  style.around (numeral.take whole) (numeral.drop whole ++ style.furtherZeros)

/-- A positive number with one digit before the point: the digits and the power of ten. -/
def normalized (style : RoundedStyle) (significand : Nat) (exponent : Int) : Nat × Int :=
  -- Rounding up may reach the next power of ten, which shortens the digits by one.
  if significand = 0 then (0, 0)
  else
    let magnitude := (Neighbourhood.ofBinary significand exponent).magnitude
    let count := nearestMultiple significand exponent (style.worked - magnitude)
    if count = Nat.pow 10 (style.worked + 1) then (Nat.pow 10 style.worked, magnitude + 1)
    else (count, magnitude)

/-- The sign and the digits of a power of ten, of which there are at least two. -/
def powerText (magnitude : Int) : List Char :=
  -- Powers that are not negative have a sign too.
  'e' :: (if magnitude < 0 then '-' else '+') :: padded 2 magnitude.natAbs

/-- The number with one digit before the point and a power of ten. -/
def scientific (style : RoundedStyle) (significand : Nat) (exponent : Int) : List Char :=
  -- The first digit is zero for zero alone.
  let (count, magnitude) := style.normalized significand exponent
  let numeral := padded (style.worked + 1) count
  style.around (numeral.take 1) (numeral.drop 1 ++ style.furtherZeros) ++ powerText magnitude

/-- A fraction without the zeros at its end. -/
def withoutLastZeros (fraction : List Char) : List Char :=
  -- Zeros before another digit stay.
  (fraction.reverse.dropWhile (· == '0')).reverse

/-- The number in the shorter of the two ways, where the places count all its digits. -/
def general (style : RoundedStyle) (significand : Nat) (exponent : Int) : List Char :=
  -- The power of ten after rounding decides, and zeros at the end are dropped with the point.
  let digits := max (if style.keepsPoint then style.places else style.worked) 1
  let lead : RoundedStyle := ⟨digits - 1, style.keepsPoint⟩
  let (count, magnitude) := lead.normalized significand exponent
  let shorten (fraction : List Char) : List Char :=
    if style.keepsPoint then fraction else withoutLastZeros fraction
  if -4 ≤ magnitude ∧ magnitude < digits then
    let short : RoundedStyle := ⟨(digits - 1 - magnitude).toNat, style.keepsPoint⟩
    let numeral := padded (short.worked + 1) (nearestMultiple significand exponent short.worked)
    let whole := numeral.length - short.worked
    style.around (numeral.take whole) (shorten (numeral.drop whole ++ short.furtherZeros))
  else
    let numeral := padded (lead.worked + 1) count
    style.around (numeral.take 1) (shorten (numeral.drop 1 ++ lead.furtherZeros))
      ++ powerText magnitude

end RoundedStyle

end AccessPolicy.Number
