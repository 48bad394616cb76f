import AccessPolicy.Proofs.Policy.ElementFault

/-! Faults of conditions: reading stops at the first faulty key of the first faulty operator. -/

namespace AccessPolicy.Policy

open Condition (OperatorKey)

namespace Reader

variable {fault : Fault}

/-- Scalars are refused for what the value is instead. -/
theorem readValues_eq_error_iff {raw : String} {value : Json} :
    readValues raw value = .error fault ↔ BreaksScalars raw value fault := by
  have unread (item : Json) : scalarText? item = none ↔ ∀ text, ¬ WritesScalar item text := by
    simp only [Option.eq_none_iff_forall_ne_some, Ne, scalarText?_eq_some_iff]
  constructor
  · intro refused
    unfold readValues at refused
    split at refused
    · rename_i items
      split at refused
      · rename_i empty
        cases refused
        rw [List.isEmpty_iff.mp empty]
        exact .empty
      · split at refused
        · cases refused
        · rename_i unreadable
          cases refused
          -- If all items were scalars, their texts would have been read.
          by_cases other : ∃ item ∈ items, ∀ text, ¬ WritesScalar item text
          · obtain ⟨item, inside, noScalar⟩ := other
            exact .mixed inside noScalar
          · simp only [not_exists, not_and, not_forall, not_not,
              ← scalarText?_eq_some_iff] at other
            obtain ⟨texts, all⟩ := exists_forall₂_iff.mpr other
            simp [mapM_eq_some_iff.mpr all] at unreadable
    · rename_i noList
      split at refused
      · cases refused
      · rename_i unreadable
        cases refused
        exact .neither ((unread value).mp unreadable) noList
  · intro broken
    cases broken with
    | empty => rfl
    | @mixed items item inside other =>
      have filled : items.isEmpty = false :=
        List.isEmpty_eq_false_iff.mpr (List.ne_nil_of_mem inside)
      cases read : items.mapM scalarText? with
      | none => simp [readValues, filled, read]
      | some texts =>
        obtain ⟨text, -, found⟩ := exists_of_mem_left (mapM_eq_some_iff.mp read) inside
        simp [(unread item).mpr other] at found
    | neither noScalar noList =>
      unfold readValues
      split
      · exact absurd rfl (noList _)
      · simp [(unread value).mpr noScalar]

/-- Values fail their check for their number, or for the first of them that is unexpected. -/
theorem checkValues_eq_error_iff {operator : OperatorKey} {key : String} {values : List String} :
    checkValues operator key values = .error fault ↔
      operator.base = .null ∧ values.length ≠ 1 ∧ fault = .nullTakesOneValue operator.raw key ∨
        (operator.base = .null → values.length = 1) ∧ ∃ value,
          IsFirstWithout (IsExpectedBy operator.base) values value ∧
            fault = .invalidValue operator.raw operator.base.name value key := by
  have decides (value : String) :
      isExpected operator.base.family value = true ↔ IsExpectedBy operator.base value :=
    isExpected_iff
  simp only [checkValues, Condition.Operator.family_eq_null_iff, ← find?_not_eq_some_iff decides]
  by_cases miscounted : operator.base = .null ∧ values.length ≠ 1
  · simp [miscounted, eq_comm]
  · have counted : operator.base = .null → values.length = 1 := by simpa using miscounted
    rw [if_neg miscounted, ← and_assoc, or_iff_right fun wrong => miscounted wrong.1,
      and_iff_right counted]
    cases values.find? fun value => !isExpected operator.base.family value <;> simp [eq_comm]

/-- An entry is refused for its values. -/
theorem readEntry_eq_error_iff {operator : OperatorKey} {member : String × Json} :
    readEntry operator member = .error fault ↔
      BreaksValues operator member.1 member.2 fault := by
  simp only [breaksValues_iff, ← readValues_eq_error_iff, ← @readValues_eq_ok_iff operator.raw,
    readEntry]
  cases readValues operator.raw member.2 with
  | error other => simp
  | ok texts =>
    -- Both other ways to fail are what the check of the texts reports.
    have checked := @checkValues_eq_error_iff fault operator member.1 texts
    cases check : checkValues operator member.1 texts with
    | error other => simpa [check] using checked
    | ok passed => simpa [check] using checked

/-- An entry is read where its values are those that the operator expects. -/
theorem readEntry_accepted_iff {operator : OperatorKey} {member : String × Json} :
    (∃ entry, readEntry operator member = .ok entry) ↔ IsValues operator.base member.2 := by
  simp only [readEntry_eq_ok_iff, readValues_eq_ok_iff, checkValues_eq_ok_iff, isValues_iff,
    Condition.Operator.family_eq_null_iff, List.length_eq_one_iff, isExpected_iff]
  constructor
  · intro ⟨_, texts, written, ⟨single, expected⟩, _⟩
    exact ⟨texts, written, expected, single⟩
  · intro ⟨texts, written, expected, single⟩
    exact ⟨_, texts, written, ⟨single, expected⟩, rfl⟩

section Condition

variable {index : Nat} {sid : Option String}

/-- Reading the keys of an operator ends at the first faulty one. -/
theorem readEntries_eq_error_iff {operator : OperatorKey} {members : Json.Members Json} :
    (readEntries index sid operator members).result = .error fault ↔
      ∃ leaf, IsFirstWithout (fun leaf => IsValues operator.base leaf.2) members leaf ∧
        BreaksValues operator leaf.1 leaf.2 fault := by
  induction members with
  | nil => simp [readEntries, not_isFirstWithout_nil]
  | cons first later ih =>
    rw [exists_first_breaks_cons_iff, ← readEntry_accepted_iff, ← readEntry_eq_error_iff, ← ih,
      readEntries]
    simp only [Reading.result_bind, Reading.result_silent, Reading.result_noting,
      Reading.result_pure, bind_eq_error_iff]
    cases readEntry operator first <;> simp

/-- A member of a condition is read where it is an operator with its keys. -/
theorem readOperator_accepted_iff {member : String × Json} :
    (∃ entries, (readOperator index sid member).result = .ok entries) ↔ IsOperator member := by
  rw [IsOperator, ← hasKeys_and_leaves_iff, ← exists_forall₂_iff]
  simp only [readOperator_eq_ok_iff, exists_and_left]

/-- A member of a condition is refused for its operator, for its shape or for a key. -/
theorem readOperator_eq_error_iff {member : String × Json} :
    (readOperator index sid member).result = .error fault ↔ BreaksOperator member fault := by
  obtain ⟨raw, value⟩ := member
  constructor
  · intro refused
    unfold readOperator at refused
    split at refused
    · rename_i wrong unread
      cases refused
      exact .unread unread
    · rename_i key read
      have spelled := OperatorKey.read_eq_ok_iff.mp read
      split at refused
      · rename_i empty
        cases refused
        refine .keyless spelled fun inner same => ?_
        cases same.symm.trans empty
        rfl
      · rename_i inner _ object
        obtain rfl : value = .object inner := object
        obtain ⟨leaf, first, broken⟩ := readEntries_eq_error_iff.mp refused
        exact .leaf spelled first broken
      · rename_i shapeless
        cases refused
        exact .keyless spelled fun inner same => absurd same (shapeless inner)
  · intro broken
    cases broken with
    | unread unread =>
      unfold readOperator
      rw [unread]
      rfl
    | keyless spelled unfilled =>
      unfold readOperator
      rw [OperatorKey.read_eq_ok_iff.mpr spelled]
      cases value with
      | object inner =>
        rw [unfilled inner rfl]
        rfl
      | _ => rfl
    | @leaf key _ inner leaf fault spelled first broken =>
      have refused := (@readEntries_eq_error_iff fault index sid key inner).mpr
        ⟨leaf, first, broken⟩
      cases inner with
      | nil => exact absurd first not_isFirstWithout_nil
      | cons member later =>
        unfold readOperator
        rw [OperatorKey.read_eq_ok_iff.mpr spelled]
        exact refused

/-- Reading the members of a condition ends at the first faulty one. -/
theorem readOperators_eq_error_iff {members : Json.Members Json} :
    (readOperators index sid members).result = .error fault ↔
      ∃ member, IsFirstWithout IsOperator members member ∧ BreaksOperator member fault := by
  induction members with
  | nil => simp [readOperators, not_isFirstWithout_nil]
  | cons first later ih =>
    rw [exists_first_breaks_cons_iff, ← @readOperator_accepted_iff index sid,
      ← @readOperator_eq_error_iff _ index sid, ← ih, readOperators]
    simp only [Reading.result_bind, Reading.result_pure, bind_eq_error_iff]
    cases (readOperator index sid first).result <;> simp

/-- A condition is refused for its shape, or for its first faulty member. -/
theorem readCondition_eq_error_iff {value : Option Json} :
    (readCondition index sid value).result = .error fault ↔
      ∃ given, value = some given ∧ BreaksCondition given fault := by
  cases value with
  | none => simp [readCondition]
  | some given =>
    simp only [Option.some.injEq, exists_eq_left']
    constructor
    · intro refused
      cases given with
      | object members =>
        have unread : (readOperators index sid members).result = .error fault := by
          simpa [readCondition, bind_eq_error_iff] using refused
        obtain ⟨member, first, broken⟩ := readOperators_eq_error_iff.mp unread
        exact .member first broken
      | _ =>
        cases refused
        exact .shape (by simp)
    · intro broken
      cases broken with
      | shape shapeless =>
        cases given with
        | object members => exact absurd rfl (shapeless members)
        | _ => rfl
      | member first broken =>
        have unread := (@readOperators_eq_error_iff fault index sid _).mpr ⟨_, first, broken⟩
        simp [readCondition, bind_eq_error_iff, unread]

end Condition

end Reader

end AccessPolicy.Policy
