import AccessPolicy.Net.Address

/-! Blocks of internet addresses. -/

namespace AccessPolicy.Net

/-- All addresses that share their first `length` bits with a base address. -/
structure Network where
  base : Address
  length : Nat
  deriving Repr, DecidableEq

namespace Network

/-- Reads the length of a common part, at most the width of an address. -/
def readLength? (width : Nat) (chars : List Char) : Option Nat :=
  -- Leading zeros are allowed, as long as the numeral is not longer than numerals may be.
  match chars.mapM Text.asciiDigit? with
  | none => none
  | some ds =>
    if ds.isEmpty || Number.longestNumeral < ds.length then none
    else if Number.ofDigits ds ≤ width then some (Number.ofDigits ds) else none

/-- The length of the mask with this number, if its bits are ones followed by zeros. -/
def maskLength? (mask : Nat) : Option Nat :=
  -- There is one mask for every length.
  (List.range 33).find? fun length => Nat.pow 2 32 - Nat.pow 2 (32 - length) == mask

/-- Reads the length from a mask for the network or for the hosts. -/
def readMask? (chars : List Char) : Option Nat :=
  -- The masks of only ones or only zeros are taken as masks for the network.
  match Address.readFour? chars with
  | none => none
  | some mask => (maskLength? mask).or (maskLength? (Nat.pow 2 32 - 1 - mask))

/-- Sets the bits of an address behind the common part to zero. -/
def masked (address : Address) (length : Nat) : Network :=
  -- The scope belongs to the full address and is lost with the bits.
  let size := Nat.pow 2 (address.version.width - length)
  if address.number % size = 0 then ⟨address, length⟩
  else ⟨⟨address.version, address.number - address.number % size, none⟩, length⟩

/-- Reads a block of version four, whose length defaults to a single address. -/
def readFour? (number : List Char) (mask : Option (List Char)) : Option Network :=
  -- The length may be given as a mask.
  match Address.readFour? number with
  | none => none
  | some value =>
    match mask with
    | none => some ⟨⟨.four, value, none⟩, 32⟩
    | some mask =>
      ((readLength? 32 mask).or (readMask? mask)).map (masked ⟨.four, value, none⟩)

/-- Reads a block of version six, whose length defaults to a single address. -/
def readSix? (number : List Char) (mask : Option (List Char)) : Option Network :=
  -- The length is always given as a number.
  match Address.readScoped? number with
  | none => none
  | some address =>
    match mask with
    | none => some ⟨address, 128⟩
    | some mask => (readLength? 128 mask).map (masked address)

/-- Reads a block of either version. -/
def read? (chars : List Char) : Option Network :=
  -- One slash may stand between the address and the length.
  match Text.cut '/' chars with
  | (number, mask) =>
    if (mask.getD []).contains '/' then none
    else (readFour? number mask).or (readSix? number mask)

/-- Whether an address belongs to a block. -/
def contains (network : Network) (address : Address) : Bool :=
  -- Only addresses of one version are compared, and only by the bits of the common part.
  let size := Nat.pow 2 (network.base.version.width - network.length)
  network.base.version = address.version && address.number / size = network.base.number / size

/-- The canonical text of a block. -/
def text (network : Network) : String :=
  -- The length is always written.
  network.base.text ++ "/" ++ Number.natText network.length

end Network

end AccessPolicy.Net
