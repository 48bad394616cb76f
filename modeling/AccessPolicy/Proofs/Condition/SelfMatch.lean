import AccessPolicy.Proofs.Arn.Matching
import AccessPolicy.Proofs.Condition.AddressBlock
import AccessPolicy.Proofs.Condition.Ordered
import AccessPolicy.Proofs.Policy.Acceptance

/-!
Every value equals itself.

Values of a request and those of a policy are read in different ways, and texts, names and addresses
are each compared in a way of their own. Still, a text that can be read matches itself under every
operator that asks for equality, whatever wildcards or scopes there are in it.
-/

namespace AccessPolicy.Condition

variable {operator : Operator} {family : Family} {side : Side} {text : String} {value : Value}

/-- Only addresses are read in different ways on the two sides. -/
theorem Value.read?_side (other : family ≠ .ipAddress) (side sideToo : Side) (text : String) :
    Value.read? family side text = Value.read? family sideToo text := by
  cases family with
  | ipAddress => exact absurd rfl other
  | _ => rfl

/-- An address or a block is a value of the family of addresses. -/
theorem Value.located_of_read? (read : Value.read? family side text = some value)
    (located : (∃ address, value = .address address) ∨ ∃ block, value = .network block) :
    family = .ipAddress := by
  cases family with
  | ipAddress => rfl
  | _ => rcases located with ⟨address, rfl⟩ | ⟨block, rfl⟩ <;> simp [Value.read?] at read

/-- An address lies in the block that it is written as. -/
theorem covers_self {address : Net.Address}
    (known : Net.Address.read? (Text.trim text.toList) = some address) : Covers text address := by
  have written := Net.Network.WrittenAs.alone known
  have inside : address.LiesIn address address.version.width := ⟨rfl, by simp, by simp⟩
  exact ⟨address, _, written, inside⟩

namespace Operator

/-- Values other than addresses match themselves where an operator asks for equality. -/
theorem accepts_self (equal : operator.comparison = .equal) (other : operator.family ≠ .ipAddress)
    (read : Value.read? operator.family side text = some value) :
    operator.accepts value value = true := by
  cases value with
  | text written =>
    rw [accepts]
    split
    · exact beq_self_eq_true _
    · exact Glob.accepts_self written
    · exact beq_self_eq_true _
  | number number =>
    rw [accepts, equal]
    exact (Comparison.accepts_iff (number.compareValue_compares number) .equal).mpr rfl
  | instant instant =>
    rw [accepts, equal]
    exact (Comparison.accepts_iff (instant.compareTime_compares instant) .equal).mpr rfl
  | truth truth => exact beq_self_eq_true truth
  | bytes bytes => exact beq_self_eq_true bytes
  | arn arn => exact arn.accepts_self
  | address address => exact absurd (Value.located_of_read? read (.inl ⟨address, rfl⟩)) other
  | network block => exact absurd (Value.located_of_read? read (.inr ⟨block, rfl⟩)) other

/-- A text that can be read matches itself where an operator asks for equality. -/
theorem acceptsText_self (equal : operator.comparison = .equal)
    (read : Value.read? operator.family .actual text = some value) :
    operator.acceptsText value text = true := by
  by_cases located : operator.family = .ipAddress
  · rw [located] at read
    obtain ⟨address, known, rfl⟩ := Option.map_eq_some_iff.mp read
    exact (acceptsText_address_iff located).mpr (covers_self known)
  · have readToo : Value.read? operator.family .expected text = some value :=
      (Value.read?_side located .expected .actual text).trans read
    exact acceptsText_of_accepts readToo (accepts_self equal located read)

end Operator

/-- What can be read as a value of a request can be read as one of a policy. -/
theorem Value.exists_read?_expected (read : Value.read? family .actual text = some value) :
    ∃ expected, Value.read? family .expected text = some expected := by
  by_cases located : family = .ipAddress
  · subst located
    obtain ⟨address, known, -⟩ := Option.map_eq_some_iff.mp read
    have block := Net.Network.read?_eq_some_iff.mpr ⟨address, _, .alone known, rfl⟩
    exact ⟨_, Option.map_eq_some_iff.mpr ⟨_, block, rfl⟩⟩
  · exact ⟨value, (Value.read?_side located .expected .actual text).trans read⟩

/--
Every value equals itself.

An operator that asks for equality holds of a text that can be read if the text is among those it is
compared with, whatever the others are, and fails if it is a negated operator. It also fails if the
text cannot be read. What can be read as the value of a request can be read as the expected one too.
Every text can be read as text, those of the shape of a resource name as such a name, and those of a
single address as an address.
-/
theorem compare_self :
    (∀ operator : Operator, operator ≠ .null → operator.comparison = .equal →
      ∀ (text : String) (expected : List String), text ∈ expected →
        (operator.Reads text → operator.compare text expected = .ok (!operator.negated)) ∧
        (¬ operator.Reads text → operator.compare text expected = .ok false)) ∧
    (∀ (operator : Operator) (text : String), operator.Reads text →
      ∃ value, Value.read? operator.family .expected text = some value) ∧
    ∀ (operator : Operator) (text : String),
      (operator.family ∈ [.string, .stringIgnoreCase, .stringLike] → operator.Reads text) ∧
      (operator.family = .arn → (operator.Reads text ↔ Policy.IsShapedLikeArn text)) ∧
      (operator.family = .ipAddress →
        (operator.Reads text ↔
          ∃ address, Net.Address.read? (Text.trim text.toList) = some address)) := by
  refine ⟨fun operator typed equal text expected listed => ⟨fun reads => ?_, fun unread => ?_⟩,
    fun operator text reads => ?_,
    fun operator text => ⟨fun worded => ?_, fun named => ?_, fun located => ?_⟩⟩
  · obtain ⟨value, read⟩ := reads
    have found : expected.any (operator.acceptsText value) = true :=
      List.any_eq_true.mpr ⟨text, listed, Operator.acceptsText_self equal read⟩
    rw [Operator.compare_eq typed, Operator.holds_of_read read, found, Bool.true_bne]
  · rw [Operator.compare_eq typed, Operator.holds_of_not_reads unread]
  · obtain ⟨value, read⟩ := reads
    exact Value.exists_read?_expected read
  · simp only [List.mem_cons, List.not_mem_nil, or_false] at worded
    rcases worded with family | family | family <;> exact ⟨_, by rw [family]; rfl⟩
  · rw [Operator.Reads, named, ← Policy.hasShape_iff, ← Arn.exists_read?_iff]
    simp [Value.read?]
  · rw [Operator.Reads, located]
    simp [Value.read?]

/-- A name with wildcards, an address with a scope, a pattern of texts, and numbers in two forms. -/
theorem compare_self_wildcards :
    Operator.compare .arnNotLike "arn:aws:s3:::a*b?" ["*:*", "arn:aws:s3:::a*b?"] = .ok false ∧
    Operator.compare .ipAddress "fe80::1%eth0" ["10.0.0.0/8", "fe80::1%eth0"] = .ok true ∧
    Operator.compare .stringLike "?*[a]" ["none", "?*[a]"] = .ok true ∧
    Operator.compare .numericNotEquals " 1e0 " ["2", " 1e0 "] = .ok false := by
  obtain ⟨same, -, domain⟩ := compare_self
  have shaped : Policy.IsShapedLikeArn "arn:aws:s3:::a*b?" := ⟨"aws:s3:::a*b?", by decide +kernel⟩
  have link : Net.Address.read? (Text.trim "fe80::1%eth0".toList) =
      some ⟨.six, 338288524927261089654018896841347694593, some "eth0"⟩ := by decide +kernel
  refine ⟨(same .arnNotLike (by decide) rfl _ _ (by simp)).1 ?_,
    (same .ipAddress (by decide) rfl _ _ (by simp)).1 ?_,
    (same .stringLike (by decide) rfl _ _ (by simp)).1 ?_,
    (same .numericNotEquals (by decide) rfl _ _ (by simp)).1 (by decide +kernel)⟩
  · exact ((domain .arnNotLike _).2.1 rfl).mpr shaped
  · exact ((domain .ipAddress _).2.2 rfl).mpr ⟨_, link⟩
  · exact (domain .stringLike _).1 (by decide)

end AccessPolicy.Condition
