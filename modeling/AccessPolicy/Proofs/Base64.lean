import AccessPolicy.Base64
import AccessPolicy.Proofs.Paired
import AccessPolicy.Proofs.Text.Blank

/-!
Bytes written in base64 are read as they are, with any padding and any blanks around them.

The writer cuts the bits of all bytes into groups of six and has a character for each group. What
is read is any text of these characters, unless it ends in a group that is too short for a byte.
-/

namespace AccessPolicy.Base64

/-- The sixty-four characters of base64, each at the place of its value. -/
def alphabet : List Char :=
  -- The characters of the standard alphabet, not those that are safe in names of files.
  "ABCDEFGHIJKLMNOPQRSTUVWXYZabcdefghijklmnopqrstuvwxyz0123456789+/".toList

/-- The character for a value of six bits. -/
def letter (value : Nat) : Char :=
  -- Greater values are never written.
  alphabet.getD value 'A'

/-- The values of six bits that bytes are cut into. -/
def sextets : List UInt8 → List Nat
  -- The last value of two bytes or one is filled up with zeros.
  | a :: b :: c :: rest =>
    let word := (a.toNat * 256 + b.toNat) * 256 + c.toNat
    word / 262144 :: word / 4096 % 64 :: word / 64 % 64 :: word % 64 :: sextets rest
  | [a, b] =>
    let word := (a.toNat * 256 + b.toNat) * 4
    [word / 4096, word / 64 % 64, word % 64]
  | [a] =>
    let word := a.toNat * 16
    [word / 64, word % 64]
  | [] => []

/-- The characters that bytes are written as, without padding. -/
def encode (bytes : List UInt8) : List Char :=
  -- Padding says nothing that the length does not.
  (sextets bytes).map letter

/-- What remains of a text without the blanks around it, and then without the padding at its end. -/
def Remains (text : String) (body : List Char) : Prop :=
  -- What remains may have padding inside of it, but not as its last character.
  ∃ count, Text.Encloses text.toList (body ++ List.replicate count '=') ∧ body.getLast? ≠ some '='

variable {bytes : List UInt8} {chars body : List Char} {c : Char} {value : Nat} {text : String}

section Alphabet

/-- Characters that have a value have small code points. -/
theorem ascii_of_sextet? (valued : sextet? c = some value) : c.toNat < 128 := by
  unfold sextet? at valued
  split at valued
  · rename_i within
    have last : c.toNat ≤ 90 := within.2
    omega
  split at valued
  · rename_i within
    have last : c.toNat ≤ 122 := within.2
    omega
  split at valued
  · rename_i within
    have last : c.toNat ≤ 57 := within.2
    omega
  split at valued
  · rename_i sign
    rw [sign]
    decide
  split at valued
  · rename_i sign
    rw [sign]
    decide
  · cases valued

/-- Every value of six bits is read back from its character. -/
theorem sextet?_letter (small : value < 64) : sextet? (letter value) = some value := by
  have table : ∀ value < 64, sextet? (letter value) = some value := by decide +kernel
  exact table value small

/-- The value of a character is its place in the alphabet. -/
theorem sextet?_eq_some_iff : sextet? c = some value ↔ alphabet[value]? = some c := by
  constructor
  · intro valued
    have table : ∀ code < 128, ∀ value ∈ sextet? (Char.ofNat code),
        alphabet[value]? = some (Char.ofNat code) := by decide +kernel
    have placed := table c.toNat (ascii_of_sextet? valued)
    rw [Char.ofNat_toNat] at placed
    exact placed value valued
  · intro placed
    have small : value < 64 := (List.getElem?_eq_some_iff.mp placed).1
    have written : letter value = c := by
      rw [letter, List.getD_eq_getElem?_getD, placed, Option.getD_some]
    rw [← written, sextet?_letter small]

/-- The characters that have a value are those of the alphabet. -/
theorem exists_sextet?_iff : (∃ value, sextet? c = some value) ↔ c ∈ alphabet := by
  simp only [sextet?_eq_some_iff, List.mem_iff_getElem?]

/-- No character of the alphabet is blank or stands for padding. -/
theorem alphabet_plain (inside : c ∈ alphabet) : Text.isBlank c = false ∧ c ≠ '=' := by
  have table : alphabet.all (fun c => !Text.isBlank c && c != '=') = true := by decide +kernel
  have plain := List.all_eq_true.mp table c inside
  rwa [Bool.and_eq_true, Bool.not_eq_true', bne_iff_ne] at plain

end Alphabet

section Writing

/-- Bytes are cut into values of six bits. -/
theorem sextets_lt : ∀ value ∈ sextets bytes, value < 64 := by
  fun_induction sextets bytes with
  | case1 a b c rest word ih =>
    have bound := a.toNat_lt
    have boundToo := b.toNat_lt
    have boundLast := c.toNat_lt
    simp only [List.forall_mem_cons]
    exact ⟨by omega, by omega, by omega, by omega, ih⟩
  | case2 a b word =>
    have bound := a.toNat_lt
    have boundToo := b.toNat_lt
    simp only [List.forall_mem_cons]
    exact ⟨by omega, by omega, by omega, by simp⟩
  | case3 a word =>
    have bound := a.toNat_lt
    simp only [List.forall_mem_cons]
    exact ⟨by omega, by omega, by simp⟩
  | case4 => simp

/-- The last group of values is never a single one. -/
theorem length_sextets : (sextets bytes).length % 4 ≠ 1 := by
  fun_induction sextets bytes with
  | case1 a b c rest word ih =>
    simp only [List.length_cons]
    omega
  | case2 a b word => simp
  | case3 a word => simp
  | case4 => simp

/-- Bytes are put together again from the values they are cut into. -/
theorem bytesOf_sextets : bytesOf (sextets bytes) = bytes := by
  fun_induction sextets bytes with
  | case1 a b c rest word ih =>
    have bound := a.toNat_lt
    have boundToo := b.toNat_lt
    have boundLast := c.toNat_lt
    have joined : ((word / 262144 * 64 + word / 4096 % 64) * 64 + word / 64 % 64) * 64 + word % 64
        = word := by omega
    have first : word / 65536 = a.toNat := by omega
    have second : word / 256 % 256 = b.toNat := by omega
    have third : word % 256 = c.toNat := by omega
    rw [bytesOf, joined, first, second, third, ih]
    simp only [UInt8.ofNat_toNat]
  | case2 a b word =>
    have bound := a.toNat_lt
    have boundToo := b.toNat_lt
    have joined : (word / 4096 * 64 + word / 64 % 64) * 64 + word % 64 = word := by omega
    have first : word / 1024 = a.toNat := by omega
    have second : word / 4 % 256 = b.toNat := by omega
    rw [bytesOf, joined, first, second]
    simp only [UInt8.ofNat_toNat]
  | case3 a word =>
    have joined : word / 64 * 64 + word % 64 = word := by omega
    have first : word / 16 = a.toNat := by omega
    rw [bytesOf, joined, first]
    simp only [UInt8.ofNat_toNat]
  | case4 => rfl

/-- Every character that bytes are written as is one of the alphabet. -/
theorem mem_alphabet_of_mem_encode (inside : c ∈ encode bytes) : c ∈ alphabet := by
  obtain ⟨value, cut, rfl⟩ := List.mem_map.mp inside
  exact exists_sextet?_iff.mp ⟨value, sextet?_letter (sextets_lt value cut)⟩

/-- What bytes are written as is read as those bytes. -/
theorem decodeUnpadded?_encode : decodeUnpadded? (encode bytes) = some bytes := by
  have values : (encode bytes).mapM sextet? = some (sextets bytes) := by
    rw [mapM_eq_some_iff, encode, List.forall₂_map_left_iff, List.forall₂_same]
    exact fun value cut => sextet?_letter (sextets_lt value cut)
  have length : (encode bytes).length % 4 ≠ 1 := by
    rw [encode, List.length_map]
    exact length_sextets
  rw [decodeUnpadded?, if_neg length, values, Option.map_some, bytesOf_sextets]

end Writing

section Reading

/-- Characters can be read where all are of the alphabet and none is left over. -/
theorem exists_decodeUnpadded?_iff :
    (∃ bytes, decodeUnpadded? chars = some bytes) ↔
      (∀ c ∈ chars, c ∈ alphabet) ∧ chars.length % 4 ≠ 1 := by
  have valued : (∃ values, chars.mapM sextet? = some values) ↔ ∀ c ∈ chars, c ∈ alphabet := by
    simp only [mapM_eq_some_iff, exists_forall₂_iff, exists_sextet?_iff]
  rw [← valued, decodeUnpadded?]
  split
  · rename_i single
    simp [single]
  · rename_i filled
    simp [filled]

/-- The last equals signs of a text are padding. -/
theorem dropLastWhile_padding_iff :
    Text.dropLastWhile (· == '=') chars = body ↔
      ∃ count, chars = body ++ List.replicate count '=' ∧ body.getLast? ≠ some '=' := by
  rw [Text.dropLastWhile_eq_iff]
  constructor
  · rintro ⟨padding, rfl, equal, last⟩
    refine ⟨padding.length, ?_, ?_⟩
    · rw [← List.eq_replicate_of_mem fun c inside => eq_of_beq (equal c inside)]
    · intro ends
      simpa using last '=' ends
  · rintro ⟨count, rfl, last⟩
    refine ⟨_, rfl, fun c inside => ?_, fun c ends => ?_⟩
    · rw [List.eq_of_mem_replicate inside]
      rfl
    · refine beq_false_of_ne fun equal => last ?_
      rw [← equal]
      exact ends

/-- Blanks and padding are taken off before anything is read. -/
theorem remains_iff :
    Remains text body ↔ Text.dropLastWhile (· == '=') (Text.trim text.toList) = body := by
  rw [dropLastWhile_padding_iff]
  refine exists_congr fun count => and_congr_left fun _ => ?_
  rw [← Text.trim_eq_iff]

/-- A text is read as what remains of it. -/
theorem Remains.decode?_eq (remains : Remains text body) :
    decode? text = decodeUnpadded? body := by
  rw [decode?, remains_iff.mp remains]

/-- Of a text with blanks around it and padding at its end, what bytes are written as remains. -/
theorem remains_encode {lead trail : List Char} (blank : ∀ c ∈ lead, Text.isBlank c = true)
    (blankToo : ∀ c ∈ trail, Text.isBlank c = true) (count : Nat) :
    Remains (String.ofList (lead ++ encode bytes ++ List.replicate count '=' ++ trail))
      (encode bytes) := by
  have plain : ∀ c ∈ encode bytes, Text.isBlank c = false ∧ c ≠ '=' := fun c inside =>
    alphabet_plain (mem_alphabet_of_mem_encode inside)
  have filled : ∀ c ∈ encode bytes ++ List.replicate count '=', Text.isBlank c = false := by
    intro c inside
    rcases List.mem_append.mp inside with written | padding
    · exact (plain c written).1
    · rw [List.eq_of_mem_replicate padding]
      rfl
  refine ⟨count, ⟨⟨lead, trail, ?_, blank, blankToo⟩, fun c first => ?_, fun c last => ?_⟩, ?_⟩
  · rw [String.toList_ofList, List.append_assoc lead]
  · exact filled c (List.mem_of_mem_head? first)
  · exact filled c (List.mem_of_mem_getLast? last)
  · intro ends
    exact (plain '=' (List.mem_of_mem_getLast? ends)).2 rfl

/-- Bytes written in base64 are read back, with any blanks around them and any padding. -/
theorem decode?_encode {lead trail : List Char} (blank : ∀ c ∈ lead, Text.isBlank c = true)
    (blankToo : ∀ c ∈ trail, Text.isBlank c = true) (count : Nat) :
    decode? (String.ofList (lead ++ encode bytes ++ List.replicate count '=' ++ trail)) =
      some bytes := by
  rw [(remains_encode blank blankToo count).decode?_eq, decodeUnpadded?_encode]

end Reading

end AccessPolicy.Base64
