import AccessPolicy.Proofs.Condition.Complement
import AccessPolicy.Proofs.Net.Network

/-!
Operators on addresses decide by intervals of numbers.

An expected text stands for a block of addresses, and an address is compared with the bounds of the
block. Several texts stand for the union of their blocks, and the negated operator for what lies
outside of it.
-/

namespace AccessPolicy.Condition

open Net (Address Network)

/-- A text covers an address: it is written as a block in which the address lies. -/
def Covers (text : String) (address : Address) : Prop :=
  -- Blanks around the block do not count.
  ∃ base length, Network.WrittenAs (Text.trim text.toList) base length ∧
    address.LiesIn base length

variable {operator : Operator} {value text other : String} {address base : Address} {length : Nat}

/-- An address is compared with the block that an expected text stands for. -/
theorem acceptsText_address_iff (located : operator.family = .ipAddress) :
    operator.acceptsText (.address address) text = true ↔ Covers text address := by
  rw [Operator.acceptsText_iff_of_ne_arn (by simp [located]), located]
  constructor
  · rintro ⟨_, read, accepted⟩
    obtain ⟨network, found, rfl⟩ := Option.map_eq_some_iff.mp read
    obtain ⟨base, length, written, rfl⟩ := Network.read?_eq_some_iff.mp found
    exact ⟨base, length, written, Network.contains_masked_iff.mp accepted⟩
  · rintro ⟨base, length, written, inside⟩
    have found := Network.read?_eq_some_iff.mpr ⟨base, length, written, rfl⟩
    exact ⟨_, Option.map_eq_some_iff.mpr ⟨_, found, rfl⟩, Network.contains_masked_iff.mpr inside⟩

/-- An address satisfies an operator depending on whether some expected text covers it. -/
theorem holds_address (located : operator.family = .ipAddress)
    (known : Value.read? .ipAddress .actual value = some (.address address))
    (expected : List String) :
    operator.holds value expected = true ↔
      ((∃ text ∈ expected, Covers text address) ↔ operator.negated = false) :=
  Operator.holds_iff_of_read (located ▸ known) (fun _ => acceptsText_address_iff located) expected

/-- No operator on addresses is the test for presence. -/
theorem ne_null_of_located (located : operator.family = .ipAddress) : operator ≠ .null := by
  rintro rfl
  cases located

/-- A text that is written as a block covers the addresses in the block. -/
theorem covers_iff (written : Network.WrittenAs (Text.trim text.toList) base length) :
    Covers text address ↔ address.LiesIn base length := by
  constructor
  · rintro ⟨baseToo, lengthToo, writtenToo, inside⟩
    obtain ⟨rfl, rfl⟩ := written.unique writtenToo
    exact inside
  · intro inside
    exact ⟨base, length, written, inside⟩

/-- An expected text can be read exactly where it is written as a block, and then as one alone. -/
theorem exists_read?_network_iff :
    (∃ block, Value.read? .ipAddress .expected text = some block) ↔
      ∃! written : Address × Nat,
        Network.WrittenAs (Text.trim text.toList) written.1 written.2 := by
  simp only [Value.read?, Option.map_eq_some_iff, Network.read?_eq_some_iff]
  constructor
  · rintro ⟨_, _, ⟨base, length, written, -⟩, -⟩
    refine ⟨(base, length), written, fun other writtenToo => ?_⟩
    obtain ⟨same, sameLength⟩ := writtenToo.unique written
    exact Prod.ext same sameLength
  · rintro ⟨⟨base, length⟩, written, -⟩
    exact ⟨_, _, ⟨base, length, written, rfl⟩, rfl⟩

/-- Two addresses share the first bits, so many as the length says. -/
structure SharesFront (base baseToo : Address) (length : Nat) : Prop where
  version : base.version = baseToo.version
  common : base.number / 2 ^ (base.version.width - length) =
    baseToo.number / 2 ^ (base.version.width - length)

/-- The bits behind the common part of a block make no difference. -/
theorem SharesFront.liesIn_iff {baseToo : Address} (shares : SharesFront base baseToo length) :
    address.LiesIn base length ↔ address.LiesIn baseToo length := by
  obtain ⟨version, common⟩ := shares
  constructor
  · rintro ⟨same, first, last⟩
    rw [common, version] at first last
    exact ⟨same.trans version, first, last⟩
  · rintro ⟨same, first, last⟩
    rw [← version, ← common] at first last
    exact ⟨same.trans version.symm, first, last⟩

/-- The scope of an address makes no difference. -/
theorem covers_scope_iff (scope : Option String) :
    Covers text { address with scope := scope } ↔ Covers text address := by
  refine exists_congr fun base => exists_congr fun length => and_congr_right fun _ => ?_
  constructor
  · rintro ⟨version, first, last⟩
    exact ⟨version, first, last⟩
  · rintro ⟨version, first, last⟩
    exact ⟨version, first, last⟩

/--
Operators on addresses decide by intervals of numbers.

With one expected text, the operator holds of an address exactly where the address has the version
of the block and a number from the one written, rounded down to a multiple of the block's size, up
to the next multiple. This is where both agree under the mask of the block. Several texts stand for
the union of their blocks, and the negated operator holds of just the other addresses. Neither the
bits behind the common part of a block nor the scope of an address make a difference.
-/
theorem compare_by_interval {value : String} {address : Address}
    (known : Value.read? .ipAddress .actual value = some (.address address)) :
    (∀ text, (∃ block, Value.read? .ipAddress .expected text = some block) ↔
      ∃! written : Address × Nat,
        Network.WrittenAs (Text.trim text.toList) written.1 written.2) ∧
    (∀ text base length, Network.WrittenAs (Text.trim text.toList) base length →
      length ≤ base.version.width ∧
      Decides (Operator.compare .ipAddress value [text]) (address.LiesIn base length) ∧
      (address.LiesIn base length ↔ address.version = base.version ∧
        address.number &&& (2 ^ base.version.width - 2 ^ (base.version.width - length)) =
          base.number &&& (2 ^ base.version.width - 2 ^ (base.version.width - length)))) ∧
    (∀ expected, ∃ answer : Bool, (answer = true ↔ ∃ text ∈ expected, Covers text address) ∧
      Operator.compare .ipAddress value expected = .ok answer ∧
      Operator.compare .notIpAddress value expected = .ok (!answer)) ∧
    ∀ operator : Operator, operator.family = .ipAddress →
      (∀ text other base baseToo length,
        Network.WrittenAs (Text.trim text.toList) base length →
        Network.WrittenAs (Text.trim other.toList) baseToo length →
        SharesFront base baseToo length → ∀ before behind : List String,
          operator.compare value (before ++ text :: behind) =
            operator.compare value (before ++ other :: behind)) ∧
      ∀ other scope,
        Value.read? .ipAddress .actual other = some (.address { address with scope := scope }) →
          operator.compare other = operator.compare value := by
  have bounded : address.number < 2 ^ address.version.width := by
    obtain ⟨found, read, same⟩ := Option.map_eq_some_iff.mp known
    cases same
    exact Address.lt_of_read? read
  have holds (expected : List String) :
      Operator.holds .ipAddress value expected = true ↔ ∃ text ∈ expected, Covers text address :=
    (holds_address rfl known expected).trans (iff_true_right rfl)
  refine ⟨fun _ => exists_read?_network_iff, fun text base length written =>
    ⟨written.length_le, ?_, ?_⟩, fun expected => ?_, fun operator located => ⟨?_, ?_⟩⟩
  · refine ⟨_, Operator.compare_eq (by decide) _ _, ?_⟩
    rw [holds, ← covers_iff written]
    simp
  · exact Network.liesIn_iff_and_mask written bounded
  · refine ⟨_, holds expected, Operator.compare_eq (by decide) _ _, ?_⟩
    rw [Operator.compare_eq (by decide), Operator.Negates.ipAddress.holds_eq_not ⟨_, known⟩]
  · intro text other base baseToo length written writtenToo shares before behind
    have typed := ne_null_of_located located
    have same : Covers text address ↔ Covers other address := by
      rw [covers_iff written, covers_iff writtenToo, shares.liesIn_iff]
    rw [Operator.compare_eq typed, Operator.compare_eq typed, Except.ok.injEq, Bool.eq_iff_iff,
      holds_address located known, holds_address located known]
    simp only [List.mem_append, List.mem_cons, or_and_right, exists_or, exists_eq_left, same]
  · intro other scope knownToo
    have typed := ne_null_of_located located
    funext expected
    rw [Operator.compare_eq typed, Operator.compare_eq typed, Except.ok.injEq, Bool.eq_iff_iff,
      holds_address located known, holds_address located knownToo]
    simp only [covers_scope_iff]

/-- An address with a scope, in a block that is written around another one, and blocks of masks. -/
theorem compare_by_interval_scoped :
    let link : Address := ⟨.six, 338288524927261089654018896841347694593, some "eth0"⟩
    let base : Address := ⟨.six, 338288524927261089654018896841347760127, none⟩
    Value.read? .ipAddress .actual " fe80::1%eth0" = some (.address link) ∧
    Network.WrittenAs (Text.trim "fe80::ffff/064".toList) base 64 ∧
    Decides (Operator.compare .ipAddress " fe80::1%eth0" ["fe80::ffff/064"])
      (link.LiesIn base 64) ∧
    Operator.compare .notIpAddress "fe80::1" ["10.9.8.7/255.0.0.0", "fe80::ffff/064"] =
      Operator.compare .notIpAddress " fe80::1%eth0"
        ["10.0.0.0/0.255.255.255", "fe80::ffff/064"] := by
  intro link base
  have known : Value.read? .ipAddress .actual " fe80::1%eth0" = some (.address link) := by
    decide +kernel
  have bare : Value.read? .ipAddress .actual "fe80::1" =
      some (.address { link with scope := none }) := by decide +kernel
  have written : Network.WrittenAs (Text.trim "fe80::ffff/064".toList) base 64 := by
    have split : Text.trim "fe80::ffff/064".toList =
        "fe80::ffff".toList ++ '/' :: ['0', '6', '4'] := by decide +kernel
    have spelled : Address.read? "fe80::ffff".toList = some base := by decide +kernel
    have digits : List.Forall₂ (fun c digit => Text.asciiDigit? c = some digit)
        ['0', '6', '4'] [0, 6, 4] := .cons rfl (.cons rfl (.cons rfl .nil))
    rw [split]
    exact .block spelled (.count digits (by decide) (by decide) (by decide))
  have network : Network.WrittenAs (Text.trim "10.9.8.7/255.0.0.0".toList)
      ⟨.four, 168364039, none⟩ 8 := by
    have split : Text.trim "10.9.8.7/255.0.0.0".toList =
        "10.9.8.7".toList ++ '/' :: "255.0.0.0".toList := by decide +kernel
    have mask : Address.read? "255.0.0.0".toList = some ⟨.four, 4278190080, none⟩ := by
      decide +kernel
    rw [split]
    exact .block (by decide +kernel) (.mask rfl mask (by decide) (by decide))
  have hosts : Network.WrittenAs (Text.trim "10.0.0.0/0.255.255.255".toList)
      ⟨.four, 167772160, none⟩ 8 := by
    have split : Text.trim "10.0.0.0/0.255.255.255".toList =
        "10.0.0.0".toList ++ '/' :: "0.255.255.255".toList := by decide +kernel
    have mask : Address.read? "0.255.255.255".toList = some ⟨.four, 16777215, none⟩ := by
      decide +kernel
    rw [split]
    exact .block (by decide +kernel) (.hosts rfl mask (by decide) (by decide) (by decide))
  obtain ⟨-, single, -, alike⟩ := compare_by_interval known
  obtain ⟨front, scope⟩ := alike .notIpAddress rfl
  have same := front _ _ _ _ _ network hosts ⟨rfl, by decide⟩ [] ["fe80::ffff/064"]
  refine ⟨known, written, (single _ _ _ written).2.1, ?_⟩
  rw [scope _ _ bare]
  exact same

end AccessPolicy.Condition
