import AccessPolicy.Condition.Entry
import AccessPolicy.Proofs.FirstWithout

/-! What entries and blocks of conditions answer, and the two ways in which they can refuse to. -/

namespace AccessPolicy.Condition

/-- A test that answers every member makes the search for a failure answer too. -/
theorem allUntil_ok {α : Type} {test : α → Except Fault Bool} {answer : α → Bool}
    {members : List α} (answered : ∀ member ∈ members, test member = .ok (answer member)) :
    allUntil test members = .ok (members.all answer) := by
  -- The search stops at the first failure, where the conjunction is settled as well.
  induction members with
  | nil => rfl
  | cons first later ih =>
    have rest := ih fun member inside => answered member (List.mem_cons_of_mem _ inside)
    rw [allUntil, answered first List.mem_cons_self]
    cases result : answer first with
    | false => simp [result]
    | true => simp [result, rest]

/-- A test that answers every member makes the search for a success answer too. -/
theorem anyUntil_ok {α : Type} {test : α → Except Fault Bool} {answer : α → Bool}
    {members : List α} (answered : ∀ member ∈ members, test member = .ok (answer member)) :
    anyUntil test members = .ok (members.any answer) := by
  -- The search stops at the first success, where the disjunction is settled as well.
  induction members with
  | nil => rfl
  | cons first later ih =>
    have rest := ih fun member inside => answered member (List.mem_cons_of_mem _ inside)
    rw [anyUntil, answered first List.mem_cons_self]
    cases result : answer first with
    | false => simp [result, rest]
    | true => simp [result]

/-- No failure is found exactly where every member passes the test. -/
theorem allUntil_eq_true_iff {α : Type} {test : α → Except Fault Bool} {members : List α} :
    allUntil test members = .ok true ↔ ∀ member ∈ members, test member = .ok true := by
  -- A failure and a fault both end the search with another result.
  induction members with
  | nil => simp [allUntil]
  | cons first later ih =>
    rw [allUntil, List.forall_mem_cons]
    rcases test first with fault | passed | passed
    · simp
    · simp
    · simpa using ih

/-- The search for a failure has a fault where the first member that does not pass has one. -/
theorem allUntil_eq_error_iff {α : Type} {test : α → Except Fault Bool} {members : List α}
    {fault : Fault} :
    allUntil test members = .error fault ↔
      ∃ member, IsFirstWithout (fun member => test member = .ok true) members member ∧
        test member = .error fault := by
  induction members with
  | nil => simp [allUntil, not_isFirstWithout_nil]
  | cons first later ih =>
    rw [exists_first_breaks_cons_iff, ← ih, allUntil]
    rcases test first with other | passed | passed <;> simp

/-- Only the test for presence compares no values. -/
theorem Operator.family_eq_null_iff {operator : Operator} :
    operator.family = .null ↔ operator = .null := by
  -- Every other operator has a family of typed values.
  cases operator <;> simp [Operator.family]

/-- Operators other than the test for presence always have an answer about a value. -/
theorem Operator.compare_eq {operator : Operator} (typed : operator ≠ .null) (value : String)
    (expected : List String) :
    operator.compare value expected = .ok (operator.holds value expected) := by
  -- The fault is behind the family of the test for presence.
  rw [Operator.compare, if_neg (mt Operator.family_eq_null_iff.mp typed)]

namespace Entry

/-- An entry is settled unless it sets a quantifier on a negated operator. -/
theorem settle_eq (entry : Entry) :
    entry.settle =
      if entry.operator.isUnsettled then .error (.unsettledOperator entry.operator.raw)
      else .ok () := rfl

/-- An entry of unsettled meaning refuses every context. -/
theorem evaluate_of_unsettled {entry : Entry} (unsettled : entry.operator.isUnsettled = true)
    (context : Context) :
    entry.evaluate context = .error (.unsettledOperator entry.operator.raw) := by
  -- Settling comes before any look at the context.
  simp [evaluate, settle_eq, unsettled]

/-- A test for presence answers by its first value, which it cannot do without. -/
theorem evaluate_of_presence {entry : Entry} (settled : entry.operator.isUnsettled = false)
    (presence : entry.operator.base = .null) (context : Context) :
    entry.evaluate context = entry.presenceHolds ((context.values? entry.key).getD []) := by
  simp [evaluate, settle_eq, settled, presence]

/-- Whether an entry asks all values to hold rather than one of them. -/
def asksAll (entry : Entry) : Bool :=
  -- A set operator says so itself, and without one negations do.
  match entry.operator.quantifier with
  | some .forAllValues => true
  | some .forAnyValue => false
  | none => entry.operator.base.negated

/-- A comparing entry answers for the values of its key together, without any fault. -/
theorem valuesHold_eq {entry : Entry} (typed : entry.operator.base ≠ .null)
    (values : List String) :
    entry.valuesHold values =
      .ok (if entry.asksAll then values.all (entry.operator.base.holds · entry.values)
        else values.any (entry.operator.base.holds · entry.values)) := by
  -- The comparison answers every single value, so both searches answer.
  have answered : ∀ value ∈ values, entry.operator.base.compare value entry.values =
      .ok (entry.operator.base.holds value entry.values) :=
    fun value _ => Operator.compare_eq typed value entry.values
  have all := allUntil_ok answered
  have any := anyUntil_ok answered
  obtain ⟨⟨raw, base, ifExists, quantifier⟩, key, expected⟩ := entry
  -- The quantifier picks the search, and without one the negation does.
  rcases quantifier with _ | _ | _
  · cases negated : base.negated <;> simp_all [valuesHold, asksAll]
  · simpa [valuesHold, asksAll] using all
  · simpa [valuesHold, asksAll] using any

/-- A settled comparing entry answers in every context. -/
theorem evaluate_of_typed {entry : Entry} (settled : entry.operator.isUnsettled = false)
    (typed : entry.operator.base ≠ .null) (context : Context) :
    entry.evaluate context =
      let values := (context.values? entry.key).getD []
      .ok (if values.isEmpty then
          entry.operator.ifExists || entry.operator.quantifier == some .forAllValues
        else if entry.asksAll then values.all (entry.operator.base.holds · entry.values)
        else values.any (entry.operator.base.holds · entry.values)) := by
  -- A key without values is settled by the key alone, all others by comparing.
  simp only [evaluate, settle_eq, settled, Bool.false_eq_true, if_false, if_neg typed]
  split
  · rfl
  · exact valuesHold_eq typed _

/-- A test for presence that has no value to answer by. -/
structure Valueless (entry : Entry) : Prop where
  presence : entry.operator.base = .null
  empty : entry.values = []

/-- A test for presence is settled, since it is no negation. -/
theorem settled_of_presence {entry : Entry} (presence : entry.operator.base = .null) :
    entry.operator.isUnsettled = false := by
  simp [OperatorKey.isUnsettled, presence, Operator.negated]

/-- An entry refuses an answer for want of a settled meaning, or of a value to answer by. -/
theorem evaluate_eq_error_iff {entry : Entry} {context : Context} {fault : Fault} :
    entry.evaluate context = .error fault ↔
      entry.operator.isUnsettled = true ∧ fault = .unsettledOperator entry.operator.raw ∨
        entry.Valueless ∧ fault = .noExpectedValue := by
  by_cases presence : entry.operator.base = .null
  · have settled := settled_of_presence presence
    rw [evaluate_of_presence settled presence, presenceHolds]
    cases values : entry.values with
    | nil => simp [settled, eq_comm, show entry.Valueless from ⟨presence, values⟩]
    | cons value later =>
      have valued : ¬ entry.Valueless := fun valueless => by simp [valueless.empty] at values
      simp [settled, valued]
  · have typed : ¬ entry.Valueless := fun valueless => presence valueless.presence
    cases meaning : entry.operator.isUnsettled with
    | true => simp [evaluate_of_unsettled meaning, typed, eq_comm]
    | false => simp [evaluate_of_typed meaning presence, typed]

/-- An entry whose expected values are such as its operator compares. -/
structure Suitable (entry : Entry) : Prop where
  /-- Every value can be read for the operator, or is the wildcard for resource names. -/
  readable : ∀ value ∈ entry.values,
    entry.operator.base.family = .arn ∧ value = Arn.wildcard ∨
      ∃ expected, Value.read? entry.operator.base.family .expected value = some expected
  /-- A test for presence has exactly one value. -/
  single : entry.operator.base = .null → ∃ value, entry.values = [value]

/-- A suitable entry is no test without a value. -/
theorem Suitable.not_valueless {entry : Entry} (suitable : entry.Suitable) : ¬ entry.Valueless := by
  intro valueless
  obtain ⟨value, only⟩ := suitable.single valueless.presence
  rw [valueless.empty] at only
  cases only

/-- A suitable entry refuses an answer only for want of a settled meaning. -/
theorem Suitable.evaluate_eq_error_iff {entry : Entry} (suitable : entry.Suitable)
    (context : Context) (fault : Fault) :
    entry.evaluate context = .error fault ↔
      entry.operator.isUnsettled = true ∧ fault = .unsettledOperator entry.operator.raw := by
  rw [Entry.evaluate_eq_error_iff]
  exact or_iff_left fun other => suitable.not_valueless other.1

end Entry

/-- A block is refused for its first entry of unsettled meaning, whatever stands around it. -/
theorem settleAll_eq (entries : List Entry) :
    settleAll entries =
      match entries.find? (·.operator.isUnsettled) with
      | some entry => .error (.unsettledOperator entry.operator.raw)
      | none => .ok () := by
  -- Settled entries are passed over one by one.
  induction entries with
  | nil => rfl
  | cons first later ih =>
    rw [settleAll, Entry.settle_eq, List.find?_cons]
    cases meaning : first.operator.isUnsettled with
    | true => simp
    | false => simpa using ih

/-- A block holds exactly where each of its entries holds. -/
theorem evaluateBlock_eq_true_iff {entries : List Entry} {context : Context} :
    evaluateBlock entries context = .ok true ↔
      ∀ entry ∈ entries, entry.evaluate context = .ok true := by
  rw [evaluateBlock, settleAll_eq]
  cases first : entries.find? (·.operator.isUnsettled) with
  | none => exact allUntil_eq_true_iff
  | some entry =>
    -- An entry that cannot be settled does not hold either.
    have unsettled := List.find?_some first
    have refused := Entry.evaluate_of_unsettled unsettled context
    refine iff_of_false (by simp) fun all => ?_
    simp [all entry (List.mem_of_find?_eq_some first)] at refused

/-- A block answers where each of its entries does. -/
theorem exists_evaluateBlock {entries : List Entry} {context : Context}
    (answers : ∀ entry ∈ entries, ∃ answer, entry.evaluate context = .ok answer) :
    ∃ answer, evaluateBlock entries context = .ok answer := by
  -- An entry that answers is settled, so none is refused.
  have unrefused : entries.find? (·.operator.isUnsettled) = none := by
    refine List.find?_eq_none.mpr fun entry member unsettled => ?_
    obtain ⟨answer, evaluated⟩ := answers entry member
    simp [Entry.evaluate_of_unsettled unsettled] at evaluated
  have answered : ∀ entry ∈ entries, entry.evaluate context =
      .ok ((entry.evaluate context).toOption.getD false) := by
    intro entry member
    obtain ⟨answer, evaluated⟩ := answers entry member
    simp [evaluated, Except.toOption]
  rw [evaluateBlock, settleAll_eq, unrefused]
  exact ⟨_, allUntil_ok answered⟩

/-- The entries of a block hold up to a test for presence that has no value to answer by. -/
structure LacksValue (entries : List Entry) (context : Context) : Prop where
  /-- Otherwise the block is refused before any entry is evaluated. -/
  settled : ∀ entry ∈ entries, entry.operator.isUnsettled = false
  reached : ∃ entry, IsFirstWithout (fun entry => entry.evaluate context = .ok true) entries entry ∧
    entry.Valueless

/-- A block is refused for its first entry of unsettled meaning, or else for want of a value. -/
theorem evaluateBlock_eq_error_iff {entries : List Entry} {context : Context} {fault : Fault} :
    evaluateBlock entries context = .error fault ↔
      (∃ entry, entries.find? (·.operator.isUnsettled) = some entry ∧
        fault = .unsettledOperator entry.operator.raw) ∨
      LacksValue entries context ∧ fault = .noExpectedValue := by
  rw [evaluateBlock, settleAll_eq]
  cases first : entries.find? (·.operator.isUnsettled) with
  | some entry =>
    have unsettled := List.find?_some first
    have member := List.mem_of_find?_eq_some first
    have stopped : ¬ LacksValue entries context := by
      intro lacks
      simp [lacks.settled entry member] at unsettled
    simp [stopped, eq_comm]
  | none =>
    have settled : ∀ entry ∈ entries, entry.operator.isUnsettled = false := by simpa using first
    dsimp only
    rw [allUntil_eq_error_iff]
    constructor
    · rintro ⟨entry, reached, refused⟩
      -- Settled entries are refused for want of a value only.
      have meaning := settled entry reached.mem
      rcases Entry.evaluate_eq_error_iff.mp refused with ⟨unsettled, -⟩ | ⟨valueless, same⟩
      · simp [meaning] at unsettled
      · exact Or.inr ⟨⟨settled, entry, reached, valueless⟩, same⟩
    · rintro (⟨_, found, -⟩ | ⟨⟨-, entry, reached, valueless⟩, rfl⟩)
      · cases found
      · exact ⟨entry, reached, Entry.evaluate_eq_error_iff.mpr (Or.inr ⟨valueless, rfl⟩)⟩

end AccessPolicy.Condition
