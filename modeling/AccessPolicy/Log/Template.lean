import AccessPolicy.Json.Display
import AccessPolicy.Number.Rounded
import AccessPolicy.Text.Reserve

/-! Texts with marks in them that stand for values. -/

namespace AccessPolicy.Log.Template

/-- How a value is shown in the place of a mark. -/
inductive Conversion where
  | plain
  | quoted
  | quotedAscii
  | character
  | decimal
  | octal
  | hexadecimal
  | fixed
  | scientific
  | general
  deriving Repr, DecidableEq

/-- The conversion that a letter stands for, and whether it asks for capital letters. -/
def conversionOf? (c : Char) : Option (Conversion × Bool) :=
  -- Three letters stand for decimal numerals.
  match c with
  | 's' => some (.plain, false)
  | 'r' => some (.quoted, false)
  | 'a' => some (.quotedAscii, false)
  | 'c' => some (.character, false)
  | 'd' | 'i' | 'u' => some (.decimal, false)
  | 'o' => some (.octal, false)
  | 'x' => some (.hexadecimal, false)
  | 'X' => some (.hexadecimal, true)
  | 'f' => some (.fixed, false)
  | 'F' => some (.fixed, true)
  | 'e' => some (.scientific, false)
  | 'E' => some (.scientific, true)
  | 'g' => some (.general, false)
  | 'G' => some (.general, true)
  | _ => none

/-- What a mark asks for besides its conversion. -/
structure Flags where
  left : Bool
  signed : Bool
  blank : Bool
  alternate : Bool
  zero : Bool
  deriving Repr, DecidableEq

/-- A number in a mark: missing, written there, or taken from the values. -/
inductive Extent where
  | missing
  | given (number : Nat)
  | taken
  deriving Repr, DecidableEq

/-- How a mark tells which value it stands for. -/
inductive Naming where
  | next
  | named (name : String)
  | unfinished
  deriving Repr, DecidableEq

/-- A mark that stands for a value, with the index of its letter if it has one. -/
structure Mark where
  naming : Naming
  flags : Flags
  width : Extent
  precision : Extent
  letter : Option (Char × Nat)
  deriving Repr, DecidableEq

/-- Why a template cannot be filled in. -/
inductive Fault where
  | unfinishedMark
  | unfinishedName
  | unknownLetter (letter : Char) (index : Nat)
  | tooFewValues
  | tooManyValues
  | namesWithoutMembers
  | noMember (name : String)
  | extentNotWhole
  | widthTooGreat
  | precisionTooGreat
  | takenWidthTooGreat
  | takenPrecisionTooGreat
  | notNumber (letter : Char) (value : String)
  | notWhole (letter : Char) (value : String)
  | notReal (value : String)
  | notCharacter
  | characterOutOfRange
  | infiniteWhole
  | notANumberWhole
  | realTooGreat
  | tooManyDigits
  | numberTooLong
  | outOfMemory
  deriving Repr, DecidableEq

/-- The wording of a fault. -/
def Fault.message : Fault → String
  -- Letters are shown as they are where they can be seen.
  | .unfinishedMark => "incomplete format"
  | .unfinishedName => "incomplete format key"
  | .unknownLetter letter index =>
    let shown := if 31 ≤ letter.toNat ∧ letter.toNat < 127 then letter else '?'
    "unsupported format character '" ++ String.ofList [shown] ++ "' (0x"
      ++ String.ofList (Text.hexNumeral letter.toNat) ++ ") at index " ++ Number.natText index
  | .tooFewValues => "not enough arguments for format string"
  | .tooManyValues => "not all arguments converted during string formatting"
  | .namesWithoutMembers => "format requires a mapping"
  | .noMember name => Text.quoted name
  | .extentNotWhole => "* wants int"
  | .widthTooGreat => "width too big"
  | .precisionTooGreat => "precision too big"
  | .takenWidthTooGreat => "Python int too large to convert to C ssize_t"
  | .takenPrecisionTooGreat => "Python int too large to convert to C int"
  | .notNumber letter value =>
    "%" ++ String.ofList [letter] ++ " format: a real number is required, not " ++ value
  | .notWhole letter value =>
    "%" ++ String.ofList [letter] ++ " format: an integer is required, not " ++ value
  | .notReal value => "must be real number, not " ++ value
  | .notCharacter => "%c requires int or char"
  | .characterOutOfRange => "%c arg not in range(0x110000)"
  | .infiniteWhole => "cannot convert float infinity to integer"
  | .notANumberWhole => "cannot convert float NaN to integer"
  | .realTooGreat => "int too large to convert to float"
  | .tooManyDigits => "precision too large"
  | .numberTooLong => Number.longNumeralText ""
  | .outOfMemory => ""

/-- A piece of a template. -/
inductive Piece where
  | letter (c : Char)
  | mark (mark : Mark)
  deriving Repr, DecidableEq

/-! ## Reading of marks -/

/-- The name in round brackets at the start of a text, in which further brackets come in pairs. -/
def takeName : Nat → List Char → Option (List Char × List Char)
  -- The number counts the brackets that are still open inside the name.
  | _, [] => none
  | 0, ')' :: rest => some ([], rest)
  | depth + 1, ')' :: rest => (takeName depth rest).map fun (name, later) => (')' :: name, later)
  | depth, '(' :: rest => (takeName (depth + 1) rest).map fun (name, later) => ('(' :: name, later)
  | depth, c :: rest => (takeName depth rest).map fun (name, later) => (c :: name, later)

/-- The flags that a text begins with, and the text behind them. -/
def takeFlags (flags : Flags) : List Char → Flags × List Char
  -- A flag may be repeated.
  | '-' :: rest => takeFlags { flags with left := true } rest
  | '+' :: rest => takeFlags { flags with signed := true } rest
  | ' ' :: rest => takeFlags { flags with blank := true } rest
  | '#' :: rest => takeFlags { flags with alternate := true } rest
  | '0' :: rest => takeFlags { flags with zero := true } rest
  | chars => (flags, chars)

/-- The number that a text begins with, and the text behind it. -/
def takeExtent (chars : List Char) : Extent × List Char :=
  -- An asterisk stands for a number among the values.
  match chars with
  | '*' :: rest => (.taken, rest)
  | _ =>
    let digits := chars.takeWhile Char.isDigit
    let rest := chars.dropWhile Char.isDigit
    if digits.isEmpty then (.missing, rest)
    else (.given (Number.ofDigits (digits.filterMap Text.asciiDigit?)), rest)

/-- The precision that a text begins with, and the text behind it. -/
def takePrecision : List Char → Extent × List Char
  -- A point with no number behind it asks for none of the digits.
  | '.' :: rest =>
    match takeExtent rest with
    | (.missing, later) => (.given 0, later)
    | found => found
  | chars => (.missing, chars)

/-- The text behind a letter for the size of a number, which has no meaning here. -/
def skipSize : List Char → List Char
  -- At most one letter is skipped.
  | 'h' :: rest | 'l' :: rest | 'L' :: rest => rest
  | chars => chars

/-- How the mark behind a percent sign tells its value, and the text behind that. -/
def takeNaming : List Char → Naming × List Char
  -- A name that does not end takes up the rest of the template.
  | '(' :: rest =>
    match takeName 0 rest with
    | some (name, later) => (.named (String.ofList name), later)
    | none => (.unfinished, [])
  | chars => (.next, chars)

/-- The mark behind a percent sign, and the rest of the template. -/
def takeMark (length : Nat) (chars : List Char) : Mark × List Char :=
  -- The length of the whole template tells at which index the letter stands.
  let (naming, afterName) := takeNaming chars
  let (flags, afterFlags) := takeFlags ⟨false, false, false, false, false⟩ afterName
  let (width, afterWidth) := takeExtent afterFlags
  let (precision, afterPrecision) := takePrecision afterWidth
  match skipSize afterPrecision with
  | [] => (⟨naming, flags, width, precision, none⟩, [])
  | letter :: rest =>
    (⟨naming, flags, width, precision, some (letter, length - rest.length - 1)⟩, rest)

/-- The pieces of a template, in which a doubled percent sign is no mark. -/
def piecesFrom (length : Nat) : Nat → List Char → List Piece
  -- Every piece takes at least one character, so fuel for every character is enough.
  | 0, _ => []
  | _ + 1, [] => []
  | fuel + 1, '%' :: '%' :: rest => .letter '%' :: piecesFrom length fuel rest
  | fuel + 1, '%' :: rest =>
    let (mark, later) := takeMark length rest
    .mark mark :: piecesFrom length fuel later
  | fuel + 1, c :: rest => .letter c :: piecesFrom length fuel rest

/-- The pieces of a template. -/
def pieces (template : List Char) : List Piece :=
  -- There are at most as many pieces as characters.
  piecesFrom template.length template.length template

/-! ## Values -/

/-- What the marks of a template stand for. -/
structure Values where
  members : Option (List (String × Json))
  waiting : List Json
  deriving Repr

/-- The values of a list, of which a single object also gives its members by name. -/
def Values.of : List Json → Values
  -- An empty object is a value like any other.
  | [.object (member :: later)] => ⟨some (member :: later), [.object (member :: later)]⟩
  | values => ⟨none, values⟩

/-- The next value, and those that are left. -/
def Values.next (values : Values) : Except Fault (Json × Values) :=
  -- Every value is used once.
  match values.waiting with
  | [] => .error .tooFewValues
  | value :: later => .ok (value, { values with waiting := later })

/-- The value of a name, after which no value is left to be taken without a name. -/
def Values.member (values : Values) (name : String) : Except Fault (Json × Values) :=
  -- Only an object has names.
  match values.members with
  | none => .error .namesWithoutMembers
  | some members =>
    match Json.find? name members with
    | none => .error (.noMember name)
    | some value => .ok (value, { values with waiting := [value] })

/-- The integer that a value is, where truth values count as one and zero. -/
def wholeOf? : Json → Option Int
  -- Numbers with a point are not whole, whatever their value is.
  | .int number => some number
  | .bool truth => some (if truth then 1 else 0)
  | _ => none

/-- The bounds on a number in a mark: where it is too great, and what it is then a fault of. -/
structure Bound where
  least : Nat
  written : Fault
  taken : Fault

/-- Widths are bounded like the addresses of a machine. -/
def widthBound : Bound := ⟨Nat.pow 2 63, .widthTooGreat, .takenWidthTooGreat⟩

/-- Precisions are bounded more tightly. -/
def precisionBound : Bound := ⟨Nat.pow 2 31, .precisionTooGreat, .takenPrecisionTooGreat⟩

/-- The number that an extent amounts to, if it is not missing and not out of bounds. -/
def Extent.number (values : Values) (bound : Bound) : Extent → Except Fault (Option Int × Values)
  -- A number among the values has to be whole.
  | .missing => .ok (none, values)
  | .given number =>
    if bound.least ≤ number then .error bound.written else .ok (some number, values)
  | .taken => do
    let (value, left) ← values.next
    match wholeOf? value with
    | some number =>
      if -(bound.least : Int) ≤ number ∧ number < bound.least then return (some number, left)
      else throw bound.taken
    | none => throw .extentNotWhole

/-- The name of the type of a value in messages. -/
def typeName : Json → String
  -- Lists and objects have short names.
  | .null => "NoneType"
  | .bool _ => "bool"
  | .int _ => "int"
  | .float _ => "float"
  | .string _ => "str"
  | .array _ => "list"
  | .object _ => "dict"

/-! ## Filling in -/

/-- A number in parts: its sign, the letters before its digits, and its digits. -/
structure NumberText where
  sign : List Char
  lead : List Char
  body : List Char
  deriving Repr, DecidableEq

/-- The sign of a number. -/
def signText (flags : Flags) (negative : Bool) : List Char :=
  -- Numbers that are not negative have one only where it is asked for.
  if negative then ['-']
  else if flags.signed then ['+']
  else if flags.blank then [' ']
  else []

/-- Digits filled up with zeros to a number of places. -/
def filledUp (count : Nat) (digits : List Char) : List Char :=
  -- Enough digits stay as they are.
  List.replicate (count - digits.length) '0' ++ digits

/-- A text with blanks on one side that bring it to a width. -/
def aligned (flags : Flags) (width : Nat) (text : List Char) : List Char :=
  -- Texts that are wide enough stay as they are.
  let blanks := List.replicate (width - text.length) ' '
  if flags.left then text ++ blanks else blanks ++ text

/-- A number brought to a width. -/
def NumberText.aligned (flags : Flags) (width : Nat) (number : NumberText) : List Char :=
  -- Zeros stand behind the sign, blanks stand before it.
  let front := number.sign ++ number.lead
  if flags.zero && !flags.left then front ++ filledUp (width - front.length) number.body
  else Template.aligned flags width (front ++ number.body)

/-- What stands in the place of a mark before it is brought to a width. -/
inductive Shown where
  | text (chars : List Char)
  | number (parts : NumberText)
  deriving Repr, DecidableEq

/-- What is shown, brought to a width. -/
def Shown.aligned (flags : Flags) (width : Nat) : Shown → List Char
  -- Only numbers are filled up with zeros.
  | .text chars => Template.aligned flags width chars
  | .number parts => parts.aligned flags width

/-- The octal digits of a number in front of others, with fuel for every digit. -/
def octalBefore : Nat → Nat → List Char → List Char
  -- Every digit takes three bits.
  | 0, _, later => later
  | fuel + 1, number, later =>
    if number < 8 then Number.digitChar number :: later
    else octalBefore fuel (number / 8) (Number.digitChar (number % 8) :: later)

/-- The capital form of an ASCII text. -/
def capital (chars : List Char) : List Char :=
  -- Numbers are written in ASCII.
  chars.map Char.toUpper

/-- The whole number that a value is cut down to. -/
def truncated (letter : Char) (value : Json) : Except Fault Int :=
  -- Digits behind the point are dropped.
  match value with
  | .float (.finite negative significand exponent) =>
    let size : Int := significand * Int.pow 2 exponent.toNat / Int.pow 2 (-exponent).toNat
    .ok (if negative then -size else size)
  | .float (.infinite _) => .error .infiniteWhole
  | .float .notANumber => .error .notANumberWhole
  | value =>
    match wholeOf? value with
    | some number => .ok number
    | none => .error (.notNumber letter (typeName value))

/-- The whole number that a value has to be. -/
def whole (letter : Char) (value : Json) : Except Fault Int :=
  -- Nothing is dropped.
  match wholeOf? value with
  | some number => .ok number
  | none => .error (.notWhole letter (typeName value))

/-- The greatest number of digits that a whole number can be asked to have. -/
def mostWholeDigits : Int := 2147483644

/-- The text of a whole number in a base. -/
def wholeText (flags : Flags) (precision : Option Int) (lead digits : List Char)
    (negative capitals : Bool) : Except Fault Shown :=
  -- The precision is the least number of digits.
  let count := precision.getD 0
  if mostWholeDigits < count then .error .tooManyDigits
  else
    let body := filledUp count.toNat digits
    let shownLead := if flags.alternate then lead else []
    let shape (chars : List Char) : List Char := if capitals then capital chars else chars
    .ok (.number ⟨signText flags negative, shape shownLead, shape body⟩)

/-- The binary number that a value is brought to. -/
def real (value : Json) : Except Fault Number.Binary64 :=
  -- Whole numbers are rounded to the nearest one.
  match value with
  | .float number => .ok number
  | value =>
    match wholeOf? value with
    | some number =>
      match Number.Binary64.ofQuotient (decide (number < 0)) number.natAbs 1 with
      | .infinite _ => .error .realTooGreat
      | nearest => .ok nearest
    | none => .error (.notReal (typeName value))

/-- How many digits stand behind the point of a binary number. -/
def placesOf (conversion : Conversion) (precision : Option Int) : Nat :=
  -- With the digit before the point, the greatest precision is out of range and counts as none.
  match conversion, precision with
  | _, none => 6
  | .scientific, some 2147483647 => 0
  | _, some count => count.toNat

/-- The text of a binary number. -/
def realText (conversion : Conversion) (flags : Flags) (precision : Option Int)
    (capitals : Bool) (number : Number.Binary64) : NumberText :=
  -- Infinities have no digits.
  let style : Number.RoundedStyle := ⟨placesOf conversion precision, flags.alternate⟩
  let shape (chars : List Char) : List Char := if capitals then capital chars else chars
  match number with
  | .notANumber => ⟨signText flags false, [], shape "nan".toList⟩
  | .infinite negative => ⟨signText flags negative, [], shape "inf".toList⟩
  | .finite negative significand exponent =>
    let body := match conversion with
      | .fixed => style.fixed significand exponent
      | .scientific => style.scientific significand exponent
      | _ => style.general significand exponent
    ⟨signText flags negative, [], shape body⟩

/-- The text of a value between others, with a reserve for halves of surrogate pairs. -/
def quotedText (reserve : Text.Reserve) (value : Json) : String :=
  -- Halves are not printable.
  reserve.escaped value.display

/-- The text of a value on its own. -/
def plainText (reserve : Text.Reserve) : Json → String
  -- Strings are texts already.
  | .string text => text
  | value => quotedText reserve value

/-- A value whose whole numbers can be written. -/
def writable (value : Json) : Except Fault Json :=
  -- Those within a list or an object count as well.
  if value.isWritable then .ok value else .error .numberTooLong

/-- A text in which characters beyond ASCII are replaced by numbered escapes. -/
def asciiText (text : String) : List Char :=
  -- ASCII characters stay as they are.
  text.toList.flatMap fun c => if c.toNat < 128 then [c] else Text.numberedEscape c

/-- The character that a value stands for, or one that stands for half of a pair. -/
def characterOf (reserve : Text.Reserve) (value : Json) : Except Fault Char :=
  -- Numbers stand for the characters that they number.
  match value, wholeOf? value with
  | .string text, _ =>
    match text.toList with
    | [c] => .ok c
    | _ => .error .notCharacter
  | _, some number =>
    if 0 ≤ number ∧ number < 0x110000 then .ok (reserve.unitChar number.toNat)
    else .error .characterOutOfRange
  | _, none => .error .notCharacter

/-- What a value is shown as in the place of a mark. -/
def converted (reserve : Text.Reserve) (letter : Char × Nat) (flags : Flags)
    (precision : Option Int) (value : Json) : Except Fault Shown := do
  -- Only texts are cut at the precision.
  let shorten (chars : List Char) : Shown :=
    match precision with
    | some limit => .text (chars.take limit.toNat)
    | none => .text chars
  match conversionOf? letter.1 with
  | none => .error (.unknownLetter letter.1 letter.2)
  | some (.plain, _) => return shorten (plainText reserve (← writable value)).toList
  | some (.quoted, _) => return shorten (quotedText reserve (← writable value)).toList
  | some (.quotedAscii, _) => return shorten (asciiText (quotedText reserve (← writable value)))
  | some (.character, _) => return .text [← characterOf reserve value]
  | some (.decimal, _) =>
    let number ← truncated letter.1 value
    let numeral := Number.natNumeral number.natAbs
    let shown ← wholeText flags precision [] numeral (number < 0) false
    if Number.isShort number then return shown else throw .numberTooLong
  | some (.octal, _) =>
    let number ← whole letter.1 value
    let digits := octalBefore (number.natAbs.log2 + 1) number.natAbs []
    wholeText flags precision ['0', 'o'] digits (number < 0) false
  | some (.hexadecimal, capitals) =>
    let number ← whole letter.1 value
    wholeText flags precision ['0', 'x'] (Text.hexNumeral number.natAbs) (number < 0) capitals
  | some (conversion, capitals) =>
    return .number (realText conversion flags precision capitals (← real value))

/-- The flags of a mark with a width, of which a negative one asks for blanks on the right. -/
def sized (flags : Flags) (width : Option Int) : Flags × Nat :=
  -- Only widths from the values can be negative, and the least of them has no opposite.
  let number := width.getD 0
  ({ flags with left := flags.left || number < 0 },
    if number = -Int.pow 2 63 then 0 else number.natAbs)

/-- The greatest width for which there is memory. -/
def greatestWidth : Nat := Nat.pow 2 32

/-- The values among which a mark finds its own. -/
def Naming.select (values : Values) : Naming → Except Fault Values
  -- A name that does not end is only looked at where there are names.
  | .next => .ok values
  | .named name => (values.member name).map Prod.snd
  | .unfinished => .error (if values.members.isNone then .namesWithoutMembers else .unfinishedName)

/-- The text in the place of a mark, and the values that are left. -/
def fillMark (reserve : Text.Reserve) (mark : Mark) (values : Values) :
    Except Fault (List Char × Values) := do
  -- The parts of a mark are looked at in their order, and the value that it stands for comes last.
  let named ← mark.naming.select values
  let (width, afterWidth) ← mark.width.number named widthBound
  let (precision, afterPrecision) ← mark.precision.number afterWidth precisionBound
  match mark.letter with
  | none => throw .unfinishedMark
  | some letter =>
    let (value, left) ← afterPrecision.next
    let (flags, width) := sized mark.flags width
    let shown ← converted reserve letter flags precision value
    if greatestWidth < width then throw .outOfMemory
    return (shown.aligned flags width, left)

/-- The text of pieces, and the values that are left. -/
def fillPieces (reserve : Text.Reserve) : List Piece → Values → Except Fault (List Char × Values)
  -- Faults are found in the order of the pieces.
  | [], values => .ok ([], values)
  | .letter c :: later, values => do
    let (rest, left) ← fillPieces reserve later values
    return (c :: rest, left)
  | .mark mark :: later, values => do
    let (shown, left) ← fillMark reserve mark values
    let (rest, last) ← fillPieces reserve later left
    return (shown ++ rest, last)

/-- The template with its marks replaced by values. -/
def fill (reserve : Text.Reserve) (template : String) (values : List Json) :
    Except Fault String := do
  -- Values that no mark stands for are a fault, unless they have names.
  let start := Values.of values
  let (text, left) ← fillPieces reserve (pieces template.toList) start
  if start.members.isNone && !left.waiting.isEmpty then .error .tooManyValues
  else .ok (String.ofList text)

end AccessPolicy.Log.Template
