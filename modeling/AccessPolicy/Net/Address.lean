import AccessPolicy.Number.Numeral
import AccessPolicy.Text.Cut
import AccessPolicy.Text.Digit

/-! Internet addresses of both versions. -/

namespace AccessPolicy.Net

/-- The two versions of the internet protocol. -/
inductive Version where
  | four
  | six
  deriving Repr, DecidableEq

/-- The number of the version. -/
def Version.number : Version → Nat
  -- The versions between were never in use.
  | .four => 4
  | .six => 6

/-- The number of bits of an address. -/
def Version.width : Version → Nat
  -- The newer version has four times as many.
  | .four => 32
  | .six => 128

/-- An address as a number, with the network interface it is scoped to. -/
structure Address where
  version : Version
  number : Nat
  scope : Option String
  deriving Repr, DecidableEq

namespace Address

/-- Reads one of the four parts of an address of version four. -/
def readOctet? (chars : List Char) : Option Nat :=
  -- Leading zeros could be meant as octal and are refused.
  match chars.mapM Text.asciiDigit? with
  | none => none
  | some ds =>
    if ds.isEmpty ∨ 3 < ds.length ∨ (1 < ds.length ∧ ds.head? = some 0) then none
    else if Number.ofDigits ds ≤ 255 then some (Number.ofDigits ds) else none

/-- Reads the number of an address of version four. -/
def readFour? (chars : List Char) : Option Nat :=
  -- The first part is the highest byte.
  match (Text.pieces '.' chars).mapM readOctet? with
  | some [a, b, c, d] => some (((a * 256 + b) * 256 + c) * 256 + d)
  | _ => none

/-- Reads a group of up to four hexadecimal digits. -/
def readGroup? (chars : List Char) : Option Nat :=
  -- An empty group stands for none at all.
  if chars.isEmpty ∨ 4 < chars.length then none
  else (chars.mapM Text.hexDigit?).map fun ds =>
    ds.foldl (fun number digit => 16 * number + digit) 0

/-- The number that groups of sixteen bits stand for. -/
def ofGroups (groups : List Nat) : Nat :=
  -- The first group is the highest.
  groups.foldl (fun number group => 65536 * number + group) 0

/-- Replaces an address of version four in the last part by the two groups it stands for. -/
def expandLast? (parts : List (List Char)) : Option (List (List Char)) :=
  -- Only a last part with a point in it is such an address.
  match parts.getLast? with
  | none => some parts
  | some last =>
    if last.contains '.' then
      (readFour? last).map fun number =>
        parts.dropLast ++ [Text.hexNumeral (number / 65536), Text.hexNumeral (number % 65536)]
    else some parts

/-- The number of an address whose parts around the omitted zeros are given. -/
def readAround? (before after : List (List Char)) : Option Nat :=
  -- At least one group is omitted.
  match before.mapM readGroup?, after.mapM readGroup? with
  | some high, some low =>
    if high.length + low.length ≤ 7 then
      some (ofGroups (high ++ List.replicate (8 - (high.length + low.length)) 0 ++ low))
    else none
  | _, _ => none

/-- The parts before an omission, where an empty first part is the start of the address. -/
def partsBefore? (parts : List (List Char)) : Option (List (List Char)) :=
  -- The address may start with the omission, but with no other empty part.
  if parts.head? = some [] then if parts.length = 1 then some [] else none else some parts

/-- The parts after an omission, where an empty last part is the end of the address. -/
def partsAfter? (parts : List (List Char)) : Option (List (List Char)) :=
  -- The address may end with the omission, but with no other empty part.
  if parts.getLast? = some [] then if parts.length = 1 then some [] else none else some parts

/-- Reads the parts between the colons of an address of version six. -/
def readParts? (parts : List (List Char)) : Option Nat :=
  -- An empty part between two colons stands for the zeros left out.
  let inner := (parts.drop 1).dropLast
  if 9 < parts.length then none
  else match inner.filter List.isEmpty with
    | [] => if parts.length = 8 then (parts.mapM readGroup?).map ofGroups else none
    | [_] =>
      let place := 1 + (inner.takeWhile fun part => !part.isEmpty).length
      match partsBefore? (parts.take place), partsAfter? (parts.drop (place + 1)) with
      | some before, some after => readAround? before after
      | _, _ => none
    | _ => none

/-- Reads the number of an address of version six. -/
def readSix? (chars : List Char) : Option Nat :=
  -- Fewer than three parts are no address, whatever the last one stands for.
  let parts := Text.pieces ':' chars
  if parts.length < 3 then none
  else match expandLast? parts with
    | none => none
    | some parts => readParts? parts

/-- Reads an address of version six with the scope that may follow it. -/
def readScoped? (chars : List Char) : Option Address :=
  -- A scope is not empty and has no second percent sign.
  match Text.cut '%' chars with
  | (number, none) => (readSix? number).map (⟨.six, ·, none⟩)
  | (number, some scope) =>
    if scope.isEmpty ∨ scope.contains '%' then none
    else (readSix? number).map (⟨.six, ·, some (String.ofList scope)⟩)

/-- Reads an address of either version. -/
def read? (chars : List Char) : Option Address :=
  -- No text is an address of both versions.
  if chars.contains '/' then none
  else match readFour? chars with
    | some number => some ⟨.four, number, none⟩
    | none => readScoped? chars

/-- The groups of a number of so many groups, the highest first. -/
def groups : Nat → Nat → List Nat
  -- Each step writes the last group behind those of the quotient.
  | 0, _ => []
  | count + 1, number => groups count (number / 65536) ++ [number % 65536]

/-- The length of the run of zeros at the start of a list. -/
def zeroRun (numbers : List Nat) : Nat :=
  -- A list that starts with another number has none.
  (numbers.takeWhile (· == 0)).length

/-- Where the first of the longest runs of zeros starts, and its length. -/
def longestRun : List Nat → Nat × Nat
  -- A later run has to be longer to be taken.
  | [] => (0, 0)
  | number :: rest =>
    let here := zeroRun (number :: rest)
    let (place, length) := longestRun rest
    if length ≤ here then (0, here) else (place + 1, length)

/-- The text of an address of version six, with the longest run of zeros left out. -/
def sixText (number : Nat) : String :=
  -- A single zero is written.
  let all := groups 8 number
  let texts (part : List Nat) : String :=
    Text.joined ":" (part.map fun group => String.ofList (Text.hexNumeral group))
  let (place, length) := longestRun all
  if length < 2 then texts all
  else texts (all.take place) ++ "::" ++ texts (all.drop (place + length))

/-- The text of an address of version four. -/
def fourText (number : Nat) : String :=
  -- The highest byte comes first.
  Text.joined "." ([number / 16777216, number / 65536 % 256, number / 256 % 256,
    number % 256].map Number.natText)

/-- The canonical text of an address. -/
def text (address : Address) : String :=
  -- The scope follows a percent sign.
  match address.version with
  | .four => fourText address.number
  | .six => sixText address.number ++ ((address.scope.map ("%" ++ ·)).getD "")

end Address

end AccessPolicy.Net
