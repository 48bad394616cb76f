import AccessPolicy.Json.Value
import AccessPolicy.Number.Numeral
import AccessPolicy.Text.Reserve

/-! Reading of JSON, with the place and kind of the first fault. -/

namespace AccessPolicy.Json

/-- What is wrong with a text that is no JSON document. -/
inductive Flaw where
  | expectingValue
  | expectingName
  | expectingColon
  | expectingComma
  | extraData
  | unterminatedString
  | invalidControl
  | invalidEscape
  | invalidUnicodeEscape
  | byteOrderMark
  | longNumber (digits : Nat)
  deriving Repr, DecidableEq

/-- The wording of a flaw. -/
def Flaw.reason : Flaw → String
  -- Each wording leads up to the place that follows it.
  | .expectingValue => "Expecting value"
  | .expectingName => "Expecting property name enclosed in double quotes"
  | .expectingColon => "Expecting ':' delimiter"
  | .expectingComma => "Expecting ',' delimiter"
  | .extraData => "Extra data"
  | .unterminatedString => "Unterminated string starting at"
  | .invalidControl => "Invalid control character at"
  | .invalidEscape => "Invalid \\escape"
  | .invalidUnicodeEscape => "Invalid \\uXXXX escape"
  | .byteOrderMark => "Unexpected UTF-8 BOM (decode using utf-8-sig)"
  | .longNumber digits =>
    Number.longNumeralText (": value has " ++ Number.natText digits ++ " digits")

/-- A flaw with the text from its place on. -/
structure Stop where
  flaw : Flaw
  rest : List Char
  deriving Repr, DecidableEq

/-- What reading a part of the text yields: the part and the text behind it. -/
abbrev Step (α : Type) := Except Stop (α × List Char)

/-- Whether a character may stand between the parts of a document. -/
def isSpace (c : Char) : Bool :=
  -- Other blanks are not allowed there.
  c = ' ' || c = '\t' || c = '\n' || c = '\r'

/-- The text behind the spaces at its start. -/
def skipSpace (chars : List Char) : List Char :=
  -- There may be none.
  chars.dropWhile isSpace

/-- The ASCII digits at the start of a text, and the text behind them. -/
def takeDigits : List Char → List Nat × List Char
  -- Digits of other scripts end the number.
  | [] => ([], [])
  | c :: rest =>
    match Text.asciiDigit? c with
    | none => ([], c :: rest)
    | some digit => (digit :: (takeDigits rest).1, (takeDigits rest).2)

/-- Reads the digits before the point, of which a zero stands alone. -/
def readWhole (chars : List Char) : Option (List Nat × List Char) :=
  -- A further digit behind a leading zero is no part of the number.
  match takeDigits chars with
  | ([], _) => none
  | (0 :: _, _) => some ([0], chars.drop 1)
  | (ds, rest) => some (ds, rest)

/-- Reads the point and the digits behind it, if they are there. -/
def readFraction (chars : List Char) : List Nat × List Char :=
  -- A point without a digit is no part of the number.
  match chars with
  | '.' :: rest =>
    match takeDigits rest with
    | ([], _) => ([], chars)
    | taken => taken
  | _ => ([], chars)

/-- Reads the power of ten, if it is there. -/
def readPower (chars : List Char) : Option Int × List Char :=
  -- A mark without a digit is no part of the number.
  match chars with
  | mark :: rest =>
    if mark = 'e' ∨ mark = 'E' then
      let (negative, unsigned) := match rest with
        | '-' :: later => (true, later)
        | '+' :: later => (false, later)
        | later => (false, later)
      match takeDigits unsigned with
      | ([], _) => (none, chars)
      | (ds, later) =>
        (some (if negative then -(Number.ofDigits ds : Int) else Number.ofDigits ds), later)
    else (none, chars)
  | [] => (none, chars)

/-- Reads a number, which is a whole one without a point and a power of ten. -/
def readNumber (chars : List Char) : Step Json :=
  -- The sign of a zero counts only in floating-point numbers, and whole numbers have to be short.
  let (negative, unsigned) := match chars with
    | '-' :: rest => (true, rest)
    | rest => (false, rest)
  match readWhole unsigned with
  | none => .error ⟨.expectingValue, chars⟩
  | some (whole, rest) =>
    let (fraction, rest) := readFraction rest
    let (power, rest) := readPower rest
    if fraction.isEmpty ∧ power = none then
      let size : Int := Number.ofDigits whole
      if Number.longestNumeral < whole.length then .error ⟨.longNumber whole.length, chars⟩
      else .ok (.int (if negative then -size else size), rest)
    else
      let exponent := power.getD 0 - fraction.length
      let number := Number.ofDigits (whole ++ fraction)
      .ok (.float (.ofDecimal ⟨negative, number, exponent⟩), rest)

/-- The character of a one-letter escape. -/
def shortEscape? (c : Char) : Option Char :=
  -- Three characters stand for themselves.
  if c = '"' ∨ c = '\\' ∨ c = '/' then some c
  else if c = 'b' then some (Char.ofNat 0x08)
  else if c = 'f' then some (Char.ofNat 0x0C)
  else if c = 'n' then some '\n'
  else if c = 'r' then some '\r'
  else if c = 't' then some '\t'
  else none

/-- The unit that four hexadecimal digits stand for. -/
def unit? (chars : List Char) : Option Nat :=
  -- All four have to be there.
  match (chars.take 4).mapM Text.hexDigit? with
  | some [a, b, c, d] => some (((a * 16 + b) * 16 + c) * 16 + d)
  | _ => none

/-- Reads the escape whose letter u is given with the text behind it. -/
def readUnicodeEscape (reserve : Text.Reserve) (letter rest : List Char) : Step Char :=
  -- Some text has to follow the digits, because the closing mark is still to come.
  match (if (rest.drop 4).isEmpty then none else unit? rest) with
  | none => .error ⟨.invalidUnicodeEscape, letter⟩
  | some high =>
    let behind := rest.drop 4
    match behind with
    | '\\' :: 'u' :: more =>
      if Text.isHighSurrogate high ∧ !(more.drop 4).isEmpty then
        match unit? more with
        | none => .error ⟨.invalidUnicodeEscape, 'u' :: more⟩
        | some low =>
          if Text.isLowSurrogate low then .ok (Text.pairChar high low, more.drop 4)
          else .ok (reserve.unitChar high, behind)
      else .ok (reserve.unitChar high, behind)
    | _ => .ok (reserve.unitChar high, behind)

/-- Reads a string up to its closing mark, with fuel for one character per step. -/
def readChars (reserve : Text.Reserve) : Nat → List Char → List Char → Step (List Char)
  -- The second argument starts at the opening mark, where an unclosed string is reported.
  | 0, opening, _ => .error ⟨.unterminatedString, opening⟩
  | _ + 1, opening, [] => .error ⟨.unterminatedString, opening⟩
  | fuel + 1, opening, c :: rest =>
    let go (c : Char) (rest : List Char) : Step (List Char) :=
      match readChars reserve fuel opening rest with
      | .ok (chars, rest) => .ok (c :: chars, rest)
      | .error stop => .error stop
    if c = '"' then .ok ([], rest)
    else if c = '\\' then
      match rest with
      | [] => .error ⟨.unterminatedString, opening⟩
      | 'u' :: digits =>
        match readUnicodeEscape reserve rest digits with
        | .ok (c, rest) => go c rest
        | .error stop => .error stop
      | letter :: later =>
        match shortEscape? letter with
        | some c => go c later
        | none => .error ⟨.invalidEscape, c :: rest⟩
    else if c.toNat < 0x20 then .error ⟨.invalidControl, c :: rest⟩
    else go c rest

/-- Reads the string whose opening mark starts a text. -/
def readString (reserve : Text.Reserve) (fuel : Nat) (opening : List Char) : Step String :=
  -- Every character of the string takes at least one of the text.
  match readChars reserve fuel opening (opening.drop 1) with
  | .ok (chars, rest) => .ok (String.ofList chars, rest)
  | .error stop => .error stop

/-- Words that stand for values. -/
def words : List (String × Json) :=
  -- Floating-point numbers that are not numbers have words as well.
  [("null", .null), ("true", .bool true), ("false", .bool false), ("NaN", .float .notANumber),
    ("Infinity", .float (.infinite false)), ("-Infinity", .float (.infinite true))]

/-- Reads a word or a number. -/
def readAtom (chars : List Char) : Step Json :=
  -- No word is the beginning of a number.
  match words.find? fun word => word.1.toList.isPrefixOf chars with
  | some (word, value) => .ok (value, chars.drop word.toList.length)
  | none => readNumber chars

mutual

/-- Reads a value, with fuel for one part of the document per step. -/
def readValue (reserve : Text.Reserve) : Nat → List Char → Step Json
  -- The first character tells what kind of value it is.
  | 0, chars => .error ⟨.expectingValue, chars⟩
  | _ + 1, [] => .error ⟨.expectingValue, []⟩
  | fuel + 1, c :: rest =>
    if c = '"' then
      match readString reserve fuel (c :: rest) with
      | .ok (text, later) => .ok (.string text, later)
      | .error stop => .error stop
    else if c = '[' then
      let inner := skipSpace rest
      if inner.head? = some ']' then .ok (.array [], inner.drop 1)
      else match readItems reserve fuel inner with
        | .ok (items, later) => .ok (.array items, later)
        | .error stop => .error stop
    else if c = '\x7b' then
      let inner := skipSpace rest
      if inner.head? = some '\x7d' then .ok (.object [], inner.drop 1)
      else match readMembers reserve fuel [] inner with
        | .ok (members, later) => .ok (.object members, later)
        | .error stop => .error stop
    else readAtom (c :: rest)

/-- Reads the items of an array up to its closing bracket. -/
def readItems (reserve : Text.Reserve) : Nat → List Char → Step (List Json)
  -- A comma has to be followed by an item.
  | 0, chars => .error ⟨.expectingValue, chars⟩
  | fuel + 1, chars =>
    match readValue reserve fuel chars with
    | .error stop => .error stop
    | .ok (item, rest) =>
      match skipSpace rest with
      | ']' :: later => .ok ([item], later)
      | ',' :: later =>
        match readItems reserve fuel (skipSpace later) with
        | .ok (items, later) => .ok (item :: items, later)
        | .error stop => .error stop
      | other => .error ⟨.expectingComma, other⟩

/-- Reads the members of an object up to its closing brace, behind those read already. -/
def readMembers (reserve : Text.Reserve) :
    Nat → List (String × Json) → List Char → Step (List (String × Json))
  -- A name that was read before keeps its place and takes the new value.
  | 0, _, chars => .error ⟨.expectingName, chars⟩
  | fuel + 1, members, chars =>
    if chars.head? ≠ some '"' then .error ⟨.expectingName, chars⟩
    else match readString reserve fuel chars with
      | .error stop => .error stop
      | .ok (name, rest) =>
        match skipSpace rest with
        | ':' :: later =>
          match readValue reserve fuel (skipSpace later) with
          | .error stop => .error stop
          | .ok (value, rest) =>
            let members := put name value members
            match skipSpace rest with
            | '\x7d' :: later => .ok (members, later)
            | ',' :: later => readMembers reserve fuel members (skipSpace later)
            | other => .error ⟨.expectingComma, other⟩
        | other => .error ⟨.expectingColon, other⟩

end

/-- A flaw with its place, counted in characters from the start of the text. -/
structure Fault where
  flaw : Flaw
  position : Nat
  deriving Repr, DecidableEq

/-- Reads a whole text as one value, with a reserve for halves of surrogate pairs. -/
def read (reserve : Text.Reserve) (chars : List Char) : Except Fault Json :=
  -- Every part of a document starts with a character of its own, some parts share it with another.
  let place (rest : List Char) : Nat := chars.length - rest.length
  if chars.head? = some (Char.ofNat 0xFEFF) then .error ⟨.byteOrderMark, 0⟩
  else match readValue reserve (2 * chars.length + 2) (skipSpace chars) with
    | .error stop => .error ⟨stop.flaw, place stop.rest⟩
    | .ok (value, rest) =>
      match skipSpace rest with
      | [] => .ok value
      | extra => .error ⟨.extraData, place extra⟩

/-- The wording of a fault, with its line and column counted from one. -/
def Fault.message (fault : Fault) (chars : List Char) : String :=
  -- Only line feeds end a line.
  let before := chars.take fault.position
  let line := before.count '\n' + 1
  let column := (before.reverse.takeWhile (· != '\n')).length + 1
  fault.flaw.reason ++ ": line " ++ Number.natText line ++ " column " ++ Number.natText column
    ++ " (char " ++ Number.natText fault.position ++ ")"

end AccessPolicy.Json
