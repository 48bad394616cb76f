import AccessPolicy.Text.Digit

/-!
Halves of surrogate pairs in texts.

A string consists of characters, and half of a surrogate pair is none. A text with such halves is
kept as a string in which characters of a reserve stand for them. The text is meant to have no other
use for these characters, which is possible unless it has tens of thousands of different ideographs.
-/

namespace AccessPolicy.Text

/-- Whether a unit is the first of a surrogate pair. -/
def isHighSurrogate (unit : Nat) : Bool :=
  -- A block of 1024 units is set aside for them.
  0xD800 ≤ unit && unit ≤ 0xDBFF

/-- Whether a unit is the second of a surrogate pair. -/
def isLowSurrogate (unit : Nat) : Bool :=
  -- The block behind that of the first ones.
  0xDC00 ≤ unit && unit ≤ 0xDFFF

/-- The character of a surrogate pair. -/
def pairChar (high low : Nat) : Char :=
  -- Pairs number the characters beyond the basic plane.
  Char.ofNat (0x10000 + (high - 0xD800) * 1024 + (low - 0xDC00))

/-- The escape of one unit of sixteen bits. -/
def unitEscape (unit : Nat) : List Char :=
  -- Four digits hold every unit.
  '\\' :: 'u' :: hexDigits 4 unit

/-- Whether a character is an ideograph of the first block beyond the basic plane. -/
def isIdeograph (c : Char) : Bool :=
  -- Such characters are printed as they are, and have neither letter case nor a further meaning.
  0x20000 ≤ c.toNat && c.toNat < 0x2A6E0

/-- The number of these ideographs. -/
def ideographCount : Nat := 42720

/-- The first of these ideographs. -/
def ideographs (count : Nat) : List Char :=
  -- They are numbered one after the other.
  (List.range count).map fun place => Char.ofNat (0x20000 + place)

/-- Ideographs that stand for the halves of surrogate pairs, in their order. -/
structure Reserve where
  characters : List Char
  length_eq : characters.length = 2048
  nodup : characters.Nodup
  ideographic : ∀ c ∈ characters, isIdeograph c = true
  deriving Repr, DecidableEq

namespace Reserve

/-- The character that stands for half of a pair. -/
def standIn (reserve : Reserve) (unit : Nat) : Char :=
  -- There are as many characters as halves.
  reserve.characters.getD (unit - 0xD800) '?'

/-- The half that a character stands for. -/
def half? (reserve : Reserve) (c : Char) : Option Nat :=
  -- Characters outside the reserve stand for themselves.
  if isIdeograph c ∧ c ∈ reserve.characters then
    some (0xD800 + reserve.characters.idxOf c)
  else none

/-- The character of a unit, or the one that stands for it. -/
def unitChar (reserve : Reserve) (unit : Nat) : Char :=
  -- Half a pair is no character.
  if isHighSurrogate unit ∨ isLowSurrogate unit then reserve.standIn unit else Char.ofNat unit

/-- The character of a pair whose halves two characters stand for. -/
def pair? (reserve : Reserve) (c d : Char) : Option Char :=
  -- The order of the two halves matters.
  match reserve.half? c, reserve.half? d with
  | some high, some low =>
    if isHighSurrogate high ∧ isLowSurrogate low then some (pairChar high low) else none
  | _, _ => none

/-- A text in which two halves of a pair that stand together are taken for its character. -/
def joined (reserve : Reserve) : List Char → List Char
  -- A half belongs to one pair at most.
  | [] => []
  | [c] => [c]
  | c :: d :: rest =>
    match reserve.pair? c d with
    | some whole => whole :: reserve.joined rest
    | none => c :: reserve.joined (d :: rest)

/-- A string in which two halves of a pair that stand together are taken for its character. -/
def joinedText (reserve : Reserve) (text : String) : String :=
  -- Strings are texts.
  String.ofList (reserve.joined text.toList)

/-- Whether a text can be encoded. -/
def isEncodable (reserve : Reserve) (text : String) : Bool :=
  -- Half a pair has no encoding.
  text.toList.all fun c => (reserve.half? c).isNone

/-- A text in which halves of pairs are shown by their escapes. -/
def escaped (reserve : Reserve) (text : String) : String :=
  -- All other characters stay as they are.
  String.ofList (text.toList.flatMap fun c => ((reserve.half? c).map unitEscape).getD [c])

end Reserve

section Ideographs

variable {count place : Nat}

/-- Every place of an ideograph is that of a character. -/
theorem toNat_ideograph (small : place < ideographCount) :
    (Char.ofNat (0x20000 + place)).toNat = 0x20000 + place := by
  rw [ideographCount] at small
  have valid : (0x20000 + place).isValidChar := Or.inr (by omega)
  rw [Char.ofNat, dif_pos valid]
  rfl

/-- All ideographs are different. -/
theorem nodup_ideographs (few : count ≤ ideographCount) : (ideographs count).Nodup := by
  refine List.pairwise_map.mpr (List.Pairwise.imp_of_mem ?_ List.nodup_range)
  intro first second firstInside secondInside apart same
  have codes := congrArg Char.toNat same
  rw [toNat_ideograph (Nat.lt_of_lt_of_le (List.mem_range.mp firstInside) few),
    toNat_ideograph (Nat.lt_of_lt_of_le (List.mem_range.mp secondInside) few)] at codes
  exact apart (by omega)

/-- What is listed as an ideograph is one. -/
theorem isIdeograph_of_mem (few : count ≤ ideographCount) {c : Char}
    (listed : c ∈ ideographs count) : isIdeograph c = true := by
  obtain ⟨place, inside, rfl⟩ := List.mem_map.mp listed
  have small := Nat.lt_of_lt_of_le (List.mem_range.mp inside) few
  rw [isIdeograph, toNat_ideograph small]
  rw [ideographCount] at small
  simp only [Bool.and_eq_true, decide_eq_true_eq]
  omega

end Ideographs

namespace Reserve

/-- The first ideographs of all. -/
def first : Reserve where
  -- They are enough for all halves.
  characters := ideographs 2048
  length_eq := by simp [ideographs]
  nodup := nodup_ideographs (by decide)
  ideographic _ := isIdeograph_of_mem (by decide)

/-- The first ideographs that are not in some texts. -/
def apartFrom (texts : List (List Char)) : Reserve :=
  -- Where too few are left, the first of all are taken.
  let used := texts.flatMap fun text => text.filter isIdeograph
  let free := (ideographs ideographCount).filter fun c => c ∉ used
  if enough : 2048 ≤ free.length then
    { characters := free.take 2048
      length_eq := List.length_take_of_le enough
      nodup := ((nodup_ideographs (Nat.le_refl _)).filter _).sublist (List.take_sublist _ _)
      ideographic := fun _ inside =>
        isIdeograph_of_mem (Nat.le_refl _) (List.mem_filter.mp (List.mem_of_mem_take inside)).1 }
  else first

end Reserve

end AccessPolicy.Text
