import AccessPolicy.Number.Numeral
import AccessPolicy.Text.Digit

/-! Decoding of UTF-8, with the first fault of bytes that are not UTF-8. -/

namespace AccessPolicy.Text.Utf8

/-- What is wrong with a sequence of bytes. -/
inductive Flaw where
  | invalidStart
  | invalidContinuation
  | unexpectedEnd
  deriving Repr, DecidableEq

/-- A flaw with the first byte and the number of bytes that it spoils. -/
structure Fault where
  flaw : Flaw
  start : Nat
  length : Nat
  deriving Repr, DecidableEq

/-- The wording of a flaw. -/
def Flaw.reason : Flaw → String
  -- The three cases are the three ways in which a sequence can break off.
  | .invalidStart => "invalid start byte"
  | .invalidContinuation => "invalid continuation byte"
  | .unexpectedEnd => "unexpected end of data"

/-- The bytes that may come second after a first byte, and how many bytes follow it in all. -/
def follow? (first : UInt8) : Option (Nat × UInt8 × UInt8) :=
  -- The narrower ranges exclude overlong forms, surrogates and points beyond the last plane.
  if 0xC2 ≤ first && first ≤ 0xDF then some (1, 0x80, 0xBF)
  else if first == 0xE0 then some (2, 0xA0, 0xBF)
  else if first == 0xED then some (2, 0x80, 0x9F)
  else if 0xE1 ≤ first && first ≤ 0xEF then some (2, 0x80, 0xBF)
  else if first == 0xF0 then some (3, 0x90, 0xBF)
  else if 0xF1 ≤ first && first ≤ 0xF3 then some (3, 0x80, 0xBF)
  else if first == 0xF4 then some (3, 0x80, 0x8F)
  else none

/-- The payload of a first byte that announces a number of further bytes. -/
def payload (count : Nat) (first : UInt8) : Nat :=
  -- Each announced byte costs the first one a bit.
  first.toNat % Nat.pow 2 (6 - count)

/-- Reads the continuation bytes of one character, of which `seen` bytes are read already. -/
def continue? : Nat → Nat → UInt8 → UInt8 → Nat → List UInt8 →
    Except (Flaw × Nat) (Nat × List UInt8)
  -- Only the second byte of a character has a range of its own.
  | 0, _, _, _, code, rest => .ok (code, rest)
  | _ + 1, seen, _, _, _, [] => .error (.unexpectedEnd, seen)
  | count + 1, seen, low, high, code, byte :: rest =>
    if low ≤ byte && byte ≤ high then
      continue? count (seen + 1) 0x80 0xBF (code * 64 + (byte.toNat - 0x80)) rest
    else .error (.invalidContinuation, seen)

/-- Reads one character, and tells how many bytes it takes. -/
def next? (first : UInt8) (rest : List UInt8) : Except (Flaw × Nat) (Char × Nat × List UInt8) :=
  -- ASCII bytes stand for themselves, all others announce how many bytes follow.
  if first < 0x80 then .ok (Char.ofNat first.toNat, 1, rest)
  else match follow? first with
    | none => .error (.invalidStart, 1)
    | some (count, low, high) =>
      match continue? count 1 low high (payload count first) rest with
      | .ok (code, later) => .ok (Char.ofNat code, count + 1, later)
      | .error flaw => .error flaw

/-- Decodes bytes from a position on, with fuel for one character per step. -/
def decodeFrom : Nat → Nat → List UInt8 → Except Fault (List Char)
  -- Every character takes at least one byte, so as much fuel as there are bytes is enough.
  | 0, _, _ => .ok []
  | _ + 1, _, [] => .ok []
  | fuel + 1, start, first :: rest =>
    match next? first rest with
    | .error (flaw, length) => .error ⟨flaw, start, length⟩
    | .ok (c, length, later) =>
      match decodeFrom fuel (start + length) later with
      | .ok chars => .ok (c :: chars)
      | .error fault => .error fault

/-- The text that bytes encode. -/
def decode (bytes : List UInt8) : Except Fault (List Char) :=
  -- The length of the input bounds the number of characters.
  decodeFrom bytes.length 0 bytes

/-- The bytes of one character. -/
def encodeChar (c : Char) : List UInt8 :=
  -- Every further byte carries six bits.
  let code := c.toNat
  let tail (place : Nat) : UInt8 := UInt8.ofNat (0x80 + code / Nat.pow 64 place % 64)
  if code < 0x80 then [UInt8.ofNat code]
  else if code < 0x800 then [UInt8.ofNat (0xC0 + code / 64), tail 0]
  else if code < 0x10000 then [UInt8.ofNat (0xE0 + code / Nat.pow 64 2), tail 1, tail 0]
  else [UInt8.ofNat (0xF0 + code / Nat.pow 64 3), tail 2, tail 1, tail 0]

/-- The bytes of a text. -/
def encode (chars : List Char) : List UInt8 :=
  -- Characters are encoded one after the other.
  chars.flatMap encodeChar

/-- The wording of a fault, with the byte itself where a single one is at fault. -/
def Fault.message (fault : Fault) (bytes : List UInt8) : String :=
  -- Positions count bytes from zero and the last one belongs to the fault.
  let place :=
    if fault.length = 1 then
      let byte := String.ofList (hexDigits 2 ((bytes[fault.start]?).getD 0).toNat)
      s!"byte 0x{byte} in position {Number.natText fault.start}"
    else
      let last := Number.natText (fault.start + fault.length - 1)
      s!"bytes in position {Number.natText fault.start}-{last}"
  "'utf-8' codec can't decode " ++ place ++ ": " ++ fault.flaw.reason

end AccessPolicy.Text.Utf8
