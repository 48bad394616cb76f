import AccessPolicy.Net.Address
import AccessPolicy.Proofs.Paired
import AccessPolicy.Proofs.Text.Cut
import Mathlib.Algebra.Group.Nat.Defs

/-!
Addresses as they are read: which version a text has, and how large its number can be.

No text is an address of both versions, since one takes points and the other colons. The number of
an address has no more bits than its version provides for.
-/

namespace AccessPolicy.Net.Address

variable {chars : List Char} {number : Nat} {address : Address}

/-- An octet is written with digits alone. -/
theorem exists_digits_of_readOctet? {octet : Nat} (read : readOctet? chars = some octet) :
    (∃ ds, List.Forall₂ (fun c digit => Text.asciiDigit? c = some digit) chars ds) ∧
      octet < 256 := by
  unfold readOctet? at read
  cases spelled : chars.mapM Text.asciiDigit? with
  | none => simp [spelled] at read
  | some ds =>
    simp only [spelled] at read
    split at read
    · cases read
    · split at read
      · rename_i small
        cases read
        exact ⟨⟨ds, mapM_eq_some_iff.mp spelled⟩, Nat.lt_succ_of_le small⟩
      · cases read

/-- An address of version four consists of four octets with points between them. -/
theorem exists_octets_of_readFour? (read : readFour? chars = some number) :
    ∃ a b c d, List.Forall₂ (fun piece octet => readOctet? piece = some octet)
        (Text.pieces '.' chars) [a, b, c, d] ∧
      number = ((a * 256 + b) * 256 + c) * 256 + d := by
  unfold readFour? at read
  split at read
  · rename_i a b c d octets
    exact ⟨a, b, c, d, mapM_eq_some_iff.mp octets, (Option.some.inj read).symm⟩
  · cases read

/-- An address of version four has thirty-two bits. -/
theorem lt_of_readFour? (read : readFour? chars = some number) : number < 2 ^ 32 := by
  obtain ⟨a, b, c, d, octets, rfl⟩ := exists_octets_of_readFour? read
  have small {octet : Nat} (listed : octet ∈ [a, b, c, d]) : octet < 256 := by
    obtain ⟨piece, -, read⟩ := exists_of_mem_left octets.flip listed
    exact (exists_digits_of_readOctet? read).2
  have smallA : a < 256 := small (by simp)
  have smallB : b < 256 := small (by simp)
  have smallC : c < 256 := small (by simp)
  have smallD : d < 256 := small (by simp)
  omega

/-- An address of version four is written with digits and points, and not without a point. -/
theorem mem_of_readFour? (read : readFour? chars = some number) :
    '.' ∈ chars ∧ ∀ c ∈ chars, c = '.' ∨ ∃ digit, Text.asciiDigit? c = some digit := by
  obtain ⟨a, b, c, d, octets, -⟩ := exists_octets_of_readFour? read
  constructor
  · -- Without a point there would be one octet only.
    by_contra unmarked
    have four := octets.length_eq
    simp [Text.pieces_of_not_mem unmarked] at four
  · intro c inside
    refine or_iff_not_imp_left.mpr fun other => ?_
    obtain ⟨piece, listed, within⟩ := Text.mem_pieces inside other
    obtain ⟨octet, -, spelled⟩ := exists_of_mem_left octets listed
    obtain ⟨⟨ds, digits⟩, -⟩ := exists_digits_of_readOctet? spelled
    obtain ⟨digit, -, here⟩ := exists_of_mem_left digits within
    exact ⟨digit, here⟩

/-- Without a colon there is no address of version six. -/
theorem readScoped?_of_not_mem (bare : ':' ∉ chars) : readScoped? chars = none := by
  have unread {front : List Char} (bareFront : ':' ∉ front) : readSix? front = none := by
    rw [readSix?, Text.pieces_of_not_mem bareFront, if_pos (by simp)]
  unfold readScoped?
  rcases cut : Text.cut '%' chars with ⟨front, _ | scope⟩
  · obtain ⟨rfl, -⟩ := Text.cut_eq_none_iff.mp cut
    simp [unread bare]
  · obtain ⟨rfl, -⟩ := Text.cut_eq_some_iff.mp cut
    have bareFront : ':' ∉ front := fun inside => bare (List.mem_append_left _ inside)
    simp [unread bareFront]

/-- No text is an address of both versions. -/
theorem readScoped?_of_readFour? (read : readFour? chars = some number) :
    readScoped? chars = none := by
  refine readScoped?_of_not_mem fun inside => ?_
  rcases (mem_of_readFour? read).2 _ inside with point | ⟨digit, value⟩
  · cases point
  · cases value

/-- A text without a slash is read as an address of the one version or the other. -/
theorem read?_eq_some_iff :
    read? chars = some address ↔ '/' ∉ chars ∧
      ((∃ number, readFour? chars = some number ∧ ⟨.four, number, none⟩ = address) ∨
        readScoped? chars = some address) := by
  unfold read?
  by_cases slash : '/' ∈ chars
  · simp [slash]
  · rw [if_neg (by simpa using slash)]
    cases read : readFour? chars with
    | none => simp [slash]
    | some number => simp [slash, readScoped?_of_readFour? read]

/-- Reading digits to a base keeps below the power of the base for their number. -/
theorem foldl_lt {base : Nat} {ds : List Nat} (small : ∀ digit ∈ ds, digit < base) (front : Nat) :
    ds.foldl (fun number digit => base * number + digit) front < (front + 1) * base ^ ds.length := by
  induction ds generalizing front with
  | nil => simp
  | cons digit later ih =>
    obtain ⟨here, behind⟩ := List.forall_mem_cons.mp small
    calc later.foldl (fun number digit => base * number + digit) (base * front + digit)
        < (base * front + digit + 1) * base ^ later.length := ih behind _
      _ ≤ ((front + 1) * base) * base ^ later.length := by
          refine Nat.mul_le_mul_right _ ?_
          rw [Nat.add_mul, Nat.mul_comm]
          omega
      _ = (front + 1) * base ^ (later.length + 1) := by
          rw [Nat.pow_succ, Nat.mul_assoc, Nat.mul_comm base]

/-- A hexadecimal digit stands for less than sixteen. -/
theorem lt_of_hexDigit? {c : Char} {digit : Nat} (read : Text.hexDigit? c = some digit) :
    digit < 16 := by
  unfold Text.hexDigit? at read
  split at read
  · rename_i within
    have last : c.toNat ≤ 57 := within.2
    cases read
    omega
  · split at read
    · rename_i within
      have last : c.toNat ≤ 102 := within.2
      cases read
      omega
    · split at read
      · rename_i within
        have last : c.toNat ≤ 70 := within.2
        cases read
        omega
      · cases read

/-- A group has sixteen bits. -/
theorem lt_of_readGroup? {group : Nat} (read : readGroup? chars = some group) :
    group < 65536 := by
  unfold readGroup? at read
  split at read
  · cases read
  · rename_i sized
    obtain ⟨ds, spelled, rfl⟩ := Option.map_eq_some_iff.mp read
    have digits := mapM_eq_some_iff.mp spelled
    have small : ∀ digit ∈ ds, digit < 16 := by
      intro digit listed
      obtain ⟨c, -, here⟩ := exists_of_mem_left digits.flip listed
      exact lt_of_hexDigit? here
    have short : ds.length ≤ 4 := by
      rw [← digits.length_eq]
      exact Nat.le_of_not_lt (not_or.mp sized).2
    calc ds.foldl (fun number digit => 16 * number + digit) 0
        < (0 + 1) * 16 ^ ds.length := foldl_lt small 0
      _ ≤ (0 + 1) * 16 ^ 4 := Nat.mul_le_mul_left _ (Nat.pow_le_pow_right (by decide) short)

/-- Groups stand for a number of sixteen bits for each of them. -/
theorem ofGroups_lt {groups : List Nat} (small : ∀ group ∈ groups, group < 65536) :
    ofGroups groups < 65536 ^ groups.length := by
  simpa [ofGroups] using foldl_lt small 0

/-- Eight groups stand for a number of one hundred and twenty-eight bits. -/
theorem ofGroups_lt_of_eight {groups : List Nat} (small : ∀ group ∈ groups, group < 65536)
    (eight : groups.length = 8) : ofGroups groups < 2 ^ 128 := by
  have bound := ofGroups_lt small
  rwa [eight] at bound

/-- Groups that are read one by one are small. -/
theorem small_of_mapM_readGroup? {parts : List (List Char)} {groups : List Nat}
    (read : parts.mapM readGroup? = some groups) : ∀ group ∈ groups, group < 65536 := by
  intro group listed
  obtain ⟨part, -, here⟩ := exists_of_mem_left (mapM_eq_some_iff.mp read).flip listed
  exact lt_of_readGroup? here

/-- The groups around an omission are filled up to eight. -/
theorem lt_of_readAround? {before after : List (List Char)}
    (read : readAround? before after = some number) : number < 2 ^ 128 := by
  unfold readAround? at read
  split at read
  · rename_i high low front back
    split at read
    · rename_i room
      cases read
      refine ofGroups_lt_of_eight ?_ (by simp; omega)
      simp only [List.forall_mem_append]
      refine ⟨⟨small_of_mapM_readGroup? front, ?_⟩, small_of_mapM_readGroup? back⟩
      intro group zero
      rw [List.eq_of_mem_replicate zero]
      decide
    · cases read
  · cases read

/-- An address of version six has one hundred and twenty-eight bits. -/
theorem lt_of_readSix? (read : readSix? chars = some number) : number < 2 ^ 128 := by
  unfold readSix? at read
  simp only at read
  split at read
  · cases read
  · split at read
    · cases read
    · rename_i parts _
      unfold readParts? at read
      simp only at read
      split at read
      · cases read
      · split at read
        · -- Without an omission there are eight groups.
          split at read
          · rename_i eight
            obtain ⟨groups, all, rfl⟩ := Option.map_eq_some_iff.mp read
            refine ofGroups_lt_of_eight (small_of_mapM_readGroup? all) ?_
            rw [← (mapM_eq_some_iff.mp all).length_eq, eight]
          · cases read
        · split at read
          · exact lt_of_readAround? read
          · cases read
        · cases read

/-- An address with or without a scope is one of version six. -/
theorem exists_number_of_readScoped? (read : readScoped? chars = some address) :
    ∃ front number scope, readSix? front = some number ∧ ⟨.six, number, scope⟩ = address := by
  unfold readScoped? at read
  split at read
  · obtain ⟨number, here, made⟩ := Option.map_eq_some_iff.mp read
    exact ⟨_, number, _, here, made⟩
  · split at read
    · cases read
    · obtain ⟨number, here, made⟩ := Option.map_eq_some_iff.mp read
      exact ⟨_, number, _, here, made⟩

/-- The number of an address has no more bits than its version provides for. -/
theorem lt_of_read? (read : read? chars = some address) :
    address.number < 2 ^ address.version.width := by
  rcases (read?_eq_some_iff.mp read).2 with ⟨number, four, rfl⟩ | six
  · exact lt_of_readFour? four
  · obtain ⟨_, number, scope, here, rfl⟩ := exists_number_of_readScoped? six
    exact lt_of_readSix? here

/-- An address of version four is read by the reader of that version. -/
theorem read?_four_iff :
    read? chars = some ⟨.four, number, none⟩ ↔ readFour? chars = some number := by
  rw [read?_eq_some_iff]
  constructor
  · rintro ⟨-, ⟨other, read, same⟩ | six⟩
    · cases same
      exact read
    · obtain ⟨_, _, _, -, same⟩ := exists_number_of_readScoped? six
      cases same
  · intro read
    refine ⟨fun slash => ?_, .inl ⟨number, read, rfl⟩⟩
    rcases (mem_of_readFour? read).2 _ slash with point | ⟨digit, value⟩
    · cases point
    · cases value

end AccessPolicy.Net.Address
