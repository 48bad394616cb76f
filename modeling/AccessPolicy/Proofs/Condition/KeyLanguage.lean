import AccessPolicy.Policy.Fault
import AccessPolicy.Proofs.Condition.OperatorKey
import AccessPolicy.Proofs.Result

/-!
The language of operator keys, and the two ways to fall outside of it.

A key consists of three parts in a row, which can be found in it in one way only. A text that has no
such parts names no operator, and one that adds a part to the test for presence names one that does
not exist.
-/

namespace AccessPolicy.Condition.OperatorKey

/-- The parts of a key: a beginning for its set operator, the name of its operator, an ending. -/
structure Parts where
  beginning : String
  quantifier : Option Quantifier
  base : Operator
  ifExists : Bool
  deriving DecidableEq

namespace Parts

/-- A text consists of these parts in a row, and the beginning is one for the set operator. -/
structure Spell (parts : Parts) (text : String) : Prop where
  listed : parts.beginning ∈ beginnings parts.quantifier
  row : text = parts.beginning ++ parts.base.name ++ ending parts.ifExists

/-- Nothing stands around the name of the test for presence. -/
def Allowed (parts : Parts) : Prop :=
  -- All other operators may have either addition, or both.
  parts.base = .null → parts.beginning = "" ∧ parts.ifExists = false

/-- The key that parts make up. -/
def key (parts : Parts) (text : String) : OperatorKey :=
  -- Which of its spellings the set operator has is kept in the text alone.
  ⟨text, parts.base, parts.ifExists, parts.quantifier⟩

variable {parts others : Parts} {text : String}

/-- Only keys without a set operator have an empty beginning. -/
theorem Spell.beginning_eq_empty_iff (spell : parts.Spell text) :
    parts.beginning = "" ↔ parts.quantifier = none := by
  have listed := spell.listed
  rcases parts with ⟨beginning, _ | _ | _, base, ifExists⟩ <;>
    simp only [beginnings, List.mem_cons, List.not_mem_nil, or_false] at listed
  · simp [listed]
  · simp [listed]
  · rcases listed with rfl | rfl <;> simp

/-- Parts are not allowed where something is added to the test for presence. -/
theorem not_allowed_iff :
    ¬ parts.Allowed ↔
      parts.base = .null ∧ (parts.beginning ≠ "" ∨ parts.ifExists = true) := by
  rw [Allowed, Classical.not_imp, Classical.not_and_iff_not_or_not, Bool.not_eq_false]

/-- The additions that reading refuses are the ones that are not allowed. -/
theorem Spell.refuses_iff (spell : parts.Spell text) :
    parts.base = .null ∧ (parts.ifExists = true ∨ parts.quantifier.isSome = true) ↔
      ¬ parts.Allowed := by
  rw [not_allowed_iff, ne_eq, spell.beginning_eq_empty_iff, ← ne_eq, Option.isSome_iff_ne_none,
    or_comm]

/-- Parts in a row are read as the key that they make up, if they are allowed. -/
theorem Spell.read_eq_ok (spell : parts.Spell text) (allowed : parts.Allowed) :
    read text = .ok (parts.key text) := by
  have row := read_row spell.listed parts.base parts.ifExists
  rwa [← spell.row, if_neg (mt spell.refuses_iff.mp (not_not_intro allowed))] at row

/-- Parts in a row that are not allowed are refused. -/
theorem Spell.read_eq_error (spell : parts.Spell text) (forbidden : ¬ parts.Allowed) :
    read text = .error .qualifiedNull := by
  have row := read_row spell.listed parts.base parts.ifExists
  rwa [← spell.row, if_pos (spell.refuses_iff.mpr forbidden)] at row

/-- A text consists of such parts in one way only. -/
theorem Spell.unique (spell : parts.Spell text) (spellToo : others.Spell text) :
    parts = others := by
  obtain ⟨front, back⟩ := taken_row spell.listed parts.base parts.ifExists
  obtain ⟨frontToo, backToo⟩ := taken_row spellToo.listed others.base others.ifExists
  -- What is taken off depends on the text alone, and so does what is left.
  rw [← spell.row] at front
  rw [← spellToo.row, front] at frontToo
  obtain ⟨quantifier, rest⟩ := Prod.mk.inj frontToo
  rw [← rest, back] at backToo
  obtain ⟨ifExists, name⟩ := Prod.mk.inj backToo
  have base : parts.base = others.base := by
    have named := Operator.ofName?_name parts.base
    rw [String.toList_injective name, Operator.ofName?_name] at named
    exact (Option.some.inj named).symm
  have beginning : parts.beginning = others.beginning := by
    have row := congrArg String.toList (spell.row.symm.trans spellToo.row)
    rw [base, ifExists] at row
    simpa [String.toList_inj] using row
  cases parts
  cases others
  simp_all

end Parts

/-- A text is refused with an error of a kind. -/
def RefusedAs (text : String) (kind : ErrorKind) : Prop :=
  -- The kind depends on why the text names no operator.
  ∃ fault, read text = .error fault ∧ (Policy.Fault.ofOperator text fault).kind = kind

/-- A text consists of the parts of a key, or what is left of it is no name of an operator. -/
theorem exists_spell_or_unknown (text : String) :
    (∃ parts : Parts, parts.Spell text) ∨ ∃ name, read text = .error (.unknown name) := by
  rcases taken : takeQuantifier text.toList with ⟨quantifier, rest⟩
  rcases cut : takeIfExists rest with ⟨ifExists, name⟩
  cases named : Operator.ofName? (String.ofList name) with
  | none => exact .inr ⟨String.ofList name, by simp only [read, taken, cut, named]⟩
  | some base =>
    obtain ⟨beginning, listed, row⟩ := row_of_ofName? taken cut named
    exact .inl ⟨⟨beginning, quantifier, base, ifExists⟩, listed, row⟩

/--
Operator keys have exactly their language.

A text is read where it consists of a beginning for a set operator or none, the name of an operator
and the ending or none, and nothing is added to the test for presence. There is one way to take it
apart, and the key that is read has these parts, with both spellings of the second set operator
alike. A test for presence with an addition is refused as an unsupported operator, and every text
without such parts as a violation of the grammar.
-/
theorem read_language (text : String) :
    (∀ parts others : Parts, parts.Spell text → others.Spell text → parts = others) ∧
    (∀ key, read text = .ok key ↔
      ∃ parts : Parts, parts.Spell text ∧ parts.Allowed ∧ key = parts.key text) ∧
    (RefusedAs text .unsupportedOperator ↔ ∃ parts : Parts, parts.Spell text ∧
      parts.base = .null ∧ (parts.beginning ≠ "" ∨ parts.ifExists = true)) ∧
    (RefusedAs text .schemaViolation ↔ ∀ parts : Parts, ¬ parts.Spell text) := by
  refine ⟨fun _ _ spell spellToo => spell.unique spellToo, ?_⟩
  rcases exists_spell_or_unknown text with ⟨parts, spell⟩ | ⟨name, unknown⟩
  · have only {statement : Parts → Prop} :
        (∃ others : Parts, others.Spell text ∧ statement others) ↔ statement parts := by
      constructor
      · rintro ⟨others, spellToo, holds⟩
        exact spell.unique spellToo ▸ holds
      · intro holds
        exact ⟨parts, spell, holds⟩
    have spelled : ¬ ∀ parts : Parts, ¬ parts.Spell text := fun unspelled => unspelled parts spell
    simp only [only, ← Parts.not_allowed_iff, iff_false_right spelled]
    by_cases allowed : parts.Allowed
    · simp [RefusedAs, spell.read_eq_ok allowed, allowed, eq_comm]
    · simp [RefusedAs, spell.read_eq_error allowed, allowed, Policy.Fault.ofOperator,
        Policy.Fault.kind]
  · have unspelled (parts : Parts) : ¬ parts.Spell text := by
      intro spell
      by_cases allowed : parts.Allowed
      · simp [spell.read_eq_ok allowed] at unknown
      · simp [spell.read_eq_error allowed] at unknown
    simp [RefusedAs, unknown, unspelled, Policy.Fault.ofOperator, Policy.Fault.kind]

/-- A key in the plural with the ending, a test for presence of all values, two set operators. -/
theorem read_language_keys :
    read "ForAnyValues:StringLikeIfExists" =
        .ok ⟨"ForAnyValues:StringLikeIfExists", .stringLike, true, some .forAnyValue⟩ ∧
      (∀ parts : Parts, parts.Spell "ForAnyValues:StringLikeIfExists" →
        parts = ⟨"ForAnyValues:", some .forAnyValue, .stringLike, true⟩) ∧
      RefusedAs "ForAllValues:Null" .unsupportedOperator ∧
      ∀ parts : Parts, ¬ parts.Spell "ForAllValues:ForAnyValue:StringLike" := by
  obtain ⟨unique, accepts, -⟩ := read_language "ForAnyValues:StringLikeIfExists"
  obtain ⟨-, -, unsupported, -⟩ := read_language "ForAllValues:Null"
  obtain ⟨-, -, -, violation⟩ := read_language "ForAllValues:ForAnyValue:StringLike"
  have plural : Parts.Spell ⟨"ForAnyValues:", some .forAnyValue, .stringLike, true⟩
      "ForAnyValues:StringLikeIfExists" := ⟨by decide, by decide +kernel⟩
  have presence : Parts.Spell ⟨"ForAllValues:", some .forAllValues, .null, false⟩
      "ForAllValues:Null" := ⟨by decide, by decide +kernel⟩
  refine ⟨(accepts _).mpr ⟨_, plural, by simp [Parts.Allowed], rfl⟩,
    fun parts spell => unique _ _ spell plural, ?_, violation.mp ?_⟩
  · exact unsupported.mpr ⟨_, presence, rfl, .inl (by decide)⟩
  · exact ⟨.unknown "ForAnyValue:StringLike", faultOf_eq_some_iff.mp (by decide +kernel), rfl⟩

end AccessPolicy.Condition.OperatorKey
