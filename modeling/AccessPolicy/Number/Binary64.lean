import AccessPolicy.Number.Decimal

/-! Double-precision binary numbers, rounded exactly from decimal ones. -/

namespace AccessPolicy.Number

/-- The number `significand * 2 ^ exponent`, its opposite, or what arithmetic puts in its place. -/
inductive Binary64 where
  | finite (negative : Bool) (significand : Nat) (exponent : Int)
  | infinite (negative : Bool)
  | notANumber
  deriving Repr, DecidableEq

namespace Binary64

/-- The least exponent, which all the smallest numbers share. -/
def leastExponent : Int := -1074

/-- The greatest exponent of a finite number. -/
def greatestExponent : Int := 971

/-- Divides, and rounds a quotient halfway between two numbers to the even one. -/
def divideEven (dividend divisor : Nat) : Nat :=
  -- Twice the remainder tells on which side of the half the quotient lies.
  let quotient := dividend / divisor
  let twice := 2 * (dividend % divisor)
  if twice < divisor then quotient
  else if divisor < twice then quotient + 1
  else quotient + quotient % 2

/-- The quotient of two numbers in units of a power of two, as dividend and divisor. -/
def inUnits (dividend divisor : Nat) (exponent : Int) : Nat × Nat :=
  -- A negative exponent makes the unit smaller, and so the dividend larger.
  (dividend * Nat.pow 2 (-exponent).toNat, divisor * Nat.pow 2 exponent.toNat)

/-- The exponent at which a positive quotient has fifty-three bits, or the least one. -/
def fittingExponent (dividend divisor : Nat) : Int :=
  -- The difference of the lengths is the length of the quotient or one more.
  let guess := max leastExponent ((dividend.log2 : Int) - divisor.log2 - 53)
  let (above, below) := inUnits dividend divisor guess
  if Nat.pow 2 53 ≤ above / below then guess + 1 else guess

/-- A significand that rounding brought to fifty-three or fewer bits, with its exponent. -/
def ofRounded (negative : Bool) (significand : Nat) (exponent : Int) : Binary64 :=
  -- Rounding up may reach the next power of two, which takes one bit more.
  if significand = Nat.pow 2 53 then
    if greatestExponent ≤ exponent then .infinite negative
    else .finite negative (Nat.pow 2 52) (exponent + 1)
  else if greatestExponent < exponent then .infinite negative
  else .finite negative significand exponent

/-- The nearest number to a quotient, the even one of two that are equally near. -/
def ofQuotient (negative : Bool) (dividend divisor : Nat) : Binary64 :=
  -- Zero keeps its sign.
  if dividend = 0 then .finite negative 0 leastExponent
  else
    let exponent := fittingExponent dividend divisor
    let (above, below) := inUnits dividend divisor exponent
    ofRounded negative (divideEven above below) exponent

/-- The nearest number to a decimal one. -/
def ofDecimal (number : Decimal) : Binary64 :=
  -- Magnitudes far outside the range are decided before any power of ten is computed.
  if number.isZero || number.magnitude < -400 then .finite number.negative 0 leastExponent
  else if 400 < number.magnitude then .infinite number.negative
  else ofQuotient number.negative (number.coefficient * Nat.pow 10 number.exponent.toNat)
    (Nat.pow 10 (-number.exponent).toNat)

/-- The size of a finite number as a quotient. -/
def quotient (significand : Nat) (exponent : Int) : Nat × Nat :=
  -- Only one of the two powers is not one.
  (significand * Nat.pow 2 exponent.toNat, Nat.pow 2 (-exponent).toNat)

/-- The whole number that a finite number without a fraction is. -/
def whole? (negative : Bool) (significand : Nat) (exponent : Int) : Option Int :=
  -- The zero of either sign is zero.
  let (above, below) := quotient significand exponent
  if above % below ≠ 0 then none
  else some (if negative then -((above / below : Nat) : Int) else (above / below : Nat))

end Binary64

end AccessPolicy.Number
