import AccessPolicy.Proofs.Base64
import AccessPolicy.Proofs.Condition.Complement

/-!
The operator on binary values decides by bytes.

Different texts can stand for the same bytes, because padding, blanks and bits behind the last whole
byte do not count. The operator compares the bytes, and a text that stands for none matches nothing.
-/

namespace AccessPolicy.Condition

variable {value text : String} {bytes : List UInt8}

/-- A text is a binary value where base64 gives bytes for it. -/
theorem read?_binary_iff {side : Side} :
    Value.read? .binary side text = some (.bytes bytes) ↔ Base64.decode? text = some bytes := by
  simp [Value.read?]

/-- Bytes are compared with those that an expected text stands for. -/
theorem acceptsText_bytes_iff :
    Operator.acceptsText .binaryEquals (.bytes bytes) text = true ↔
      Base64.decode? text = some bytes := by
  rw [Operator.acceptsText_iff_of_ne_arn (by decide)]
  constructor
  · rintro ⟨_, read, accepted⟩
    obtain ⟨found, decoded, rfl⟩ := Option.map_eq_some_iff.mp read
    have same : bytes = found := eq_of_beq accepted
    rw [decoded, same]
  · intro decoded
    exact ⟨.bytes bytes, read?_binary_iff.mpr decoded, beq_self_eq_true bytes⟩

/-- A value satisfies the operator where some expected text stands for the same bytes. -/
theorem compare_of_decode? (decoded : Base64.decode? value = some bytes) (expected : List String) :
    Decides (Operator.compare .binaryEquals value expected)
      (∃ text ∈ expected, Base64.decode? text = some bytes) := by
  refine ⟨_, Operator.compare_eq (by decide) value expected, ?_⟩
  have known : Value.read? (Operator.family .binaryEquals) .actual value = some (.bytes bytes) :=
    read?_binary_iff.mpr decoded
  rw [Operator.holds_iff_of_read known fun text => acceptsText_bytes_iff]
  exact iff_true_right rfl

/-- A value that stands for no bytes does not satisfy the operator. -/
theorem compare_of_not_decode? (undecoded : Base64.decode? value = none) (expected : List String) :
    Operator.compare .binaryEquals value expected = .ok false := by
  have unread : ¬ Operator.Reads .binaryEquals value := by
    rintro ⟨actual, read⟩
    simp [Operator.family, Value.read?, undecoded] at read
  rw [Operator.compare_eq (by decide), Operator.holds_of_not_reads unread]

/--
The operator on binary values decides by bytes, which base64 gives back with any padding.

Any bytes are read back from what they are written as, with blanks around it and any number of
equals signs at its end. A text stands for bytes exactly where only characters of the alphabet
remain of it, and not one more than a multiple of four. A text that stands for bytes satisfies the
operator if some expected text stands for the same ones, and any other text satisfies it never.
-/
theorem compare_by_bytes :
    (∀ (bytes : List UInt8) (count : Nat) (lead trail : List Char),
      (∀ c ∈ lead, Text.isBlank c = true) → (∀ c ∈ trail, Text.isBlank c = true) →
        Base64.decode? (String.ofList
          (lead ++ Base64.encode bytes ++ List.replicate count '=' ++ trail)) = some bytes) ∧
    (∀ text, ∃! body, Base64.Remains text body) ∧
    (∀ text body, Base64.Remains text body →
      ((∃ bytes, Base64.decode? text = some bytes) ↔
        (∀ c ∈ body, c ∈ Base64.alphabet) ∧ body.length % 4 ≠ 1)) ∧
    (∀ value bytes, Base64.decode? value = some bytes →
      (∀ text bytesToo, Base64.decode? text = some bytesToo →
        Decides (Operator.compare .binaryEquals value [text]) (bytes = bytesToo)) ∧
      ∀ expected, Decides (Operator.compare .binaryEquals value expected)
        (∃ text ∈ expected, Base64.decode? text = some bytes)) ∧
    ∀ value, Base64.decode? value = none →
      ∀ expected, Operator.compare .binaryEquals value expected = .ok false := by
  refine ⟨fun bytes count lead trail blank blankToo => ?_, fun text => ?_,
    fun text body remains => ?_, fun value bytes decoded => ⟨fun text bytesToo decodedToo => ?_,
    fun expected => ?_⟩, fun value undecoded expected => ?_⟩
  · exact Base64.decode?_encode blank blankToo count
  · exact ⟨_, Base64.remains_iff.mpr rfl, fun body remains => (Base64.remains_iff.mp remains).symm⟩
  · rw [remains.decode?_eq]
    exact Base64.exists_decodeUnpadded?_iff
  · refine (compare_of_decode? decoded [text]).congr ?_
    simp [decodedToo, eq_comm]
  · exact compare_of_decode? decoded expected
  · exact compare_of_not_decode? undecoded expected

/-- Texts of the same two bytes, a text without bytes, one with a mark inside, and one too short. -/
theorem compare_by_bytes_padding :
    Base64.decode? " +/8===\n" = some [251, 255] ∧
    Base64.Remains "\t" [] ∧ (∃ bytes, Base64.decode? "\t" = some bytes) ∧
    (¬ ∃ bytes, Base64.decode? "+=/8=" = some bytes) ∧
    Decides (Operator.compare .binaryEquals " +/8===\n" ["+/9"])
      (([251, 255] : List UInt8) = [251, 255]) ∧
    Operator.compare .binaryEquals "+/8==A" ["+/8", "+/8==A"] = .ok false := by
  obtain ⟨written, -, readable, compared, others⟩ := compare_by_bytes
  have decoded : Base64.decode? " +/8===\n" = some [251, 255] :=
    written [251, 255] 3 [' '] ['\n'] (by simp [Text.isBlank]) (by simp [Text.isBlank])
  have empty : Base64.Remains "\t" [] := Base64.remains_iff.mpr (by decide +kernel)
  have inner : Base64.Remains "+=/8=" "+=/8".toList := Base64.remains_iff.mpr (by decide +kernel)
  refine ⟨decoded, empty, (readable _ _ empty).mpr ⟨by simp, by decide⟩, ?_, ?_, ?_⟩
  · rw [readable _ _ inner]
    exact fun plain => absurd (plain.1 '=' (by decide)) (by decide)
  · exact (compared _ _ decoded).1 "+/9" [251, 255] (by decide +kernel)
  · exact others _ (by decide +kernel) _

end AccessPolicy.Condition
