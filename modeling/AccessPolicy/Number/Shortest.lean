import AccessPolicy.Number.Binary64

/-! The shortest decimal numbers that read back as a given binary one. -/

namespace AccessPolicy.Number

/-- The numbers that round to one binary number lie between `low` and `high` over `scale`. -/
structure Neighbourhood where
  low : Nat
  centre : Nat
  high : Nat
  scale : Nat
  closed : Bool
  deriving Repr

namespace Neighbourhood

/-- The decimals that round to the positive number `significand * 2 ^ exponent`. -/
def ofBinary (significand : Nat) (exponent : Int) : Neighbourhood :=
  -- Below a power of two the numbers lie half as far apart as above it; even ends round inwards.
  let narrow := significand = Nat.pow 2 52 ∧ Binary64.leastExponent < exponent
  let up := Nat.pow 2 exponent.toNat
  { low := (4 * significand - if narrow then 1 else 2) * up
    centre := 4 * significand * up
    high := (4 * significand + 2) * up
    scale := 4 * Nat.pow 2 (-exponent).toNat
    closed := significand % 2 = 0 }

/-- The power of ten of the first digit of the centre. -/
def magnitude (near : Neighbourhood) : Int :=
  -- Shifted by four hundred places every number is at least one, and its whole part has its digits.
  (digits (near.centre * Nat.pow 10 400 / near.scale)).length - 401

/-- Whether the number `count * 10 ^ place` lies in the neighbourhood. -/
def contains (near : Neighbourhood) (count : Nat) (place : Int) : Bool :=
  -- Both sides are brought to whole numbers.
  let value := count * Nat.pow 10 place.toNat * near.scale
  let unit := Nat.pow 10 (-place).toNat
  if near.closed then near.low * unit ≤ value && value ≤ near.high * unit
  else near.low * unit < value && value < near.high * unit

/-- The number of units `10 ^ place` nearest to the centre among those in the neighbourhood. -/
def nearest? (near : Neighbourhood) (place : Int) : Option Nat :=
  -- Only the two multiples around the centre can be the nearest.
  let above := near.centre * Nat.pow 10 (-place).toNat
  let unit := near.scale * Nat.pow 10 place.toNat
  let below := above / unit
  let twice := 2 * (above % unit)
  let lowFits := near.contains below place
  let highFits := near.contains (below + 1) place
  if lowFits && (!highFits || twice < unit || (twice = unit && below % 2 = 0)) then some below
  else if highFits then some (below + 1)
  else none

/-- The first decimal found when more and more digits are allowed, `tries` times. -/
def firstWithin (near : Neighbourhood) (magnitude : Int) : Nat → Nat → Nat × Int
  -- Seventeen digits tell any two binary numbers apart, so the search always ends before its fuel.
  | 0, _ => (0, 0)
  | tries + 1, length =>
    let place := magnitude - length
    match near.nearest? place with
    | some count => (count, place)
    | none => firstWithin near magnitude tries (length + 1)

end Neighbourhood

/-- The digits of a number without the zeros at its end, and the power of ten of the first one. -/
def significantDigits (count : Nat) (place : Int) : List Nat × Int :=
  -- Zeros at the end do not move the first digit.
  let ds := digits count
  ((ds.reverse.dropWhile (· == 0)).reverse, place + ds.length - 1)

/-- The shortest digits that read back as a positive number, and the power of the first one. -/
def shortestDigits (significand : Nat) (exponent : Int) : List Nat × Int :=
  -- Of the shortest candidates the one nearest to the number is taken.
  let near := Neighbourhood.ofBinary significand exponent
  let (count, place) := near.firstWithin near.magnitude 18 0
  significantDigits count place

/-- How the digits of a floating-point number are laid out. -/
structure Layout where
  leastPositional : Int
  greatestPositional : Int
  exponentWidth : Nat
  infinity : String
  notANumber : String
  deriving Repr

namespace Layout

/-- The digits around a point, with zeros in the places that they do not reach. -/
def positional (ds : List Nat) (magnitude : Int) : List Char :=
  -- At least one digit stands on either side of the point.
  let texts := ds.map digitChar
  if magnitude < 0 then
    '0' :: '.' :: (List.replicate (-magnitude - 1).toNat '0' ++ texts)
  else
    let whole := magnitude.toNat + 1
    let filled := texts ++ List.replicate (whole - texts.length) '0'
    let fraction := filled.drop whole
    filled.take whole ++ '.' :: (if fraction.isEmpty then ['0'] else fraction)

/-- The digits with a point behind the first and a power of ten behind the last. -/
def scientific (layout : Layout) (ds : List Nat) (magnitude : Int) : List Char :=
  -- A single digit needs no point, and the exponent always has a sign.
  let texts := ds.map digitChar
  let lead := match texts with
    | [] => []
    | [d] => [d]
    | d :: later => d :: '.' :: later
  let mark := if magnitude < 0 then '-' else '+'
  lead ++ 'e' :: mark :: padded layout.exponentWidth magnitude.natAbs

/-- The text of a number. -/
def text (layout : Layout) : Binary64 → List Char
  -- Magnitudes outside the positional range are written with a power of ten.
  | .notANumber => layout.notANumber.toList
  | .infinite negative => (if negative then ['-'] else []) ++ layout.infinity.toList
  | .finite negative significand exponent =>
    let unsigned :=
      if significand = 0 then ['0', '.', '0']
      else
        let (ds, magnitude) := shortestDigits significand exponent
        if layout.leastPositional ≤ magnitude ∧ magnitude ≤ layout.greatestPositional then
          positional ds magnitude
        else layout.scientific ds magnitude
    (if negative then ['-'] else []) ++ unsigned

end Layout

end AccessPolicy.Number
