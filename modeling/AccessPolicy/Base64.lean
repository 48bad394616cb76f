import AccessPolicy.Text.Blank

/-! Binary values in base64, with or without padding. -/

namespace AccessPolicy.Base64

/-- The value of a character of the standard alphabet. -/
def sextet? (c : Char) : Option Nat :=
  -- Capital letters, small letters, digits and two signs.
  if 'A' ≤ c ∧ c ≤ 'Z' then some (c.toNat - 65)
  else if 'a' ≤ c ∧ c ≤ 'z' then some (c.toNat - 71)
  else if '0' ≤ c ∧ c ≤ '9' then some (c.toNat + 4)
  else if c = '+' then some 62
  else if c = '/' then some 63
  else none

/-- The bytes that groups of four six-bit values stand for, the last of which may be shorter. -/
def bytesOf : List Nat → List UInt8
  -- Bits beyond the last whole byte are dropped.
  | a :: b :: c :: d :: rest =>
    let word := ((a * 64 + b) * 64 + c) * 64 + d
    UInt8.ofNat (word / 65536) :: UInt8.ofNat (word / 256 % 256) :: UInt8.ofNat (word % 256)
      :: bytesOf rest
  | [a, b, c] =>
    let word := (a * 64 + b) * 64 + c
    [UInt8.ofNat (word / 1024), UInt8.ofNat (word / 4 % 256)]
  | [a, b] => [UInt8.ofNat ((a * 64 + b) / 16)]
  | _ => []

/-- Decodes characters of the alphabet without padding. -/
def decodeUnpadded? (chars : List Char) : Option (List UInt8) :=
  -- A single character behind full groups has too few bits for a byte.
  if chars.length % 4 = 1 then none else (chars.mapM sextet?).map bytesOf

/-- Decodes text with blanks around it and any amount of padding at its end. -/
def decode? (text : String) : Option (List UInt8) :=
  -- The length alone tells how much padding belongs there.
  decodeUnpadded? (Text.dropLastWhile (· == '=') (Text.trim text.toList))

end AccessPolicy.Base64
