import AccessPolicy.Proofs.Condition.Entry
import AccessPolicy.Proofs.SameMembers

/-! Entries answer by sets: of the values of a request, and of the values that they expect. -/

namespace AccessPolicy.Condition

/-- Tests that agree on every member are passed by all members together. -/
theorem allUntil_congr {α : Type} {test other : α → Except Fault Bool} {members : List α}
    (same : ∀ member ∈ members, test member = other member) :
    allUntil test members = allUntil other members := by
  induction members with
  | nil => rfl
  | cons first later ih =>
    obtain ⟨here, behind⟩ := List.forall_mem_cons.mp same
    rw [allUntil, allUntil, here, ih behind]

/-- An operator holds of a value by the members of the expected texts. -/
theorem Operator.holds_congr (operator : Operator) (value : String) {expected others : List String}
    (same : SameMembers expected others) :
    operator.holds value expected = operator.holds value others := by
  unfold holds
  split
  · rfl
  · rw [same.any_eq]

/-- Two entries ask for the same of a key, a test for presence even in the same words. -/
structure Entry.Alike (entry other : Entry) : Prop where
  operator : entry.operator = other.operator
  key : entry.key = other.key
  values : SameMembers entry.values other.values
  presence : entry.operator.base = .null → entry.values = other.values

namespace Entry

variable {entry other : Entry}

/-- An entry asks for the same as itself. -/
theorem Alike.refl (entry : Entry) : entry.Alike entry :=
  ⟨rfl, rfl, .refl _, fun _ => rfl⟩

/-- Entries that ask for the same answer alike in contexts with the same values of the key. -/
theorem Alike.evaluate_eq (alike : entry.Alike other) {first second : Context}
    (same : SameMembers ((first.values? entry.key).getD []) ((second.values? entry.key).getD [])) :
    entry.evaluate first = other.evaluate second := by
  obtain ⟨operator, key, values⟩ := entry
  obtain ⟨_, _, others⟩ := other
  obtain ⟨rfl, rfl, expected, presence⟩ := alike
  simp only at same expected presence
  cases meaning : operator.isUnsettled with
  | true => rw [evaluate_of_unsettled meaning, evaluate_of_unsettled meaning]
  | false =>
    by_cases absent : operator.base = .null
    · -- Whether there are values at all is seen from the members.
      rw [evaluate_of_presence meaning absent, evaluate_of_presence meaning absent]
      simp only [presenceHolds, presence absent, same.isEmpty_eq]
    · rw [evaluate_of_typed meaning absent, evaluate_of_typed meaning absent]
      have holds (value : String) := operator.base.holds_congr value expected
      have asks : asksAll ⟨operator, key, values⟩ = asksAll ⟨operator, key, others⟩ := rfl
      simp only [same.isEmpty_eq, same.any_eq, same.all_eq, holds, asks]

end Entry

/-- A block answers alike in contexts with the same values of the keys that its entries name. -/
theorem evaluateBlock_congr {entries : List Entry} {first second : Context}
    (same : ∀ entry ∈ entries, SameMembers ((first.values? entry.key).getD [])
      ((second.values? entry.key).getD [])) :
    evaluateBlock entries first = evaluateBlock entries second := by
  have each : ∀ entry ∈ entries, entry.evaluate first = entry.evaluate second :=
    fun entry inside => (Entry.Alike.refl entry).evaluate_eq (same entry inside)
  rw [evaluateBlock, evaluateBlock, allUntil_congr each]

end AccessPolicy.Condition
