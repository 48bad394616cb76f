import AccessPolicy.Proofs.Condition.Entry
import AccessPolicy.Proofs.Policy.ElementReader
import AccessPolicy.Proofs.Policy.Reading

/-! Reading conditions: the entries are those that the leaves write, and suit their operators. -/

namespace AccessPolicy.Policy.Reader

open Condition (Entry OperatorKey)

variable {index : Nat} {sid : Option String}

/-- A value is expected where it can be read, or is the wildcard for resource names. -/
theorem isExpected_iff {family : Condition.Family} {value : String} :
    isExpected family value = true ↔
      family = .arn ∧ value = Arn.wildcard ∨
        ∃ expected, Condition.Value.read? family .expected value = some expected := by
  simp [isExpected, Option.isSome_iff_exists]

/-- Values pass their check where all are expected, and a test for presence has one of them. -/
theorem checkValues_eq_ok_iff {operator : OperatorKey} {key : String} {values : List String} :
    checkValues operator key values = .ok () ↔
      (operator.base.family = .null → values.length = 1) ∧
        ∀ value ∈ values, isExpected operator.base.family value = true := by
  -- The number of values is checked first, and then the first unexpected one is reported.
  simp only [checkValues]
  by_cases miscounted : operator.base.family = .null ∧ values.length ≠ 1
  · simp only [if_pos miscounted, reduceCtorEq, false_iff]
    exact fun passed => miscounted.2 (passed.1 miscounted.1)
  · have counted : operator.base.family = .null → values.length = 1 := by simpa using miscounted
    rw [if_neg miscounted]
    cases unexpected : values.find? fun value => !isExpected operator.base.family value with
    | none => exact iff_of_true rfl ⟨counted, by simpa using unexpected⟩
    | some value =>
      have refused := List.find?_some unexpected
      simp only [reduceCtorEq, false_iff]
      intro passed
      simp [passed.2 value (List.mem_of_find?_eq_some unexpected)] at refused

/-- An entry is read where its values are, and pass their check. -/
theorem readEntry_eq_ok_iff {operator : OperatorKey} {member : String × Json} {entry : Entry} :
    readEntry operator member = .ok entry ↔
      ∃ values, readValues operator.raw member.2 = .ok values ∧
        checkValues operator member.1 values = .ok () ∧ entry = ⟨operator, member.1, values⟩ := by
  unfold readEntry
  cases readValues operator.raw member.2 with
  | error fault => simp
  | ok values =>
    cases checked : checkValues operator member.1 values with
    | error fault => simp [checked]
    | ok passed => simp [checked, eq_comm]

/-- The text of a scalar is the text that it writes. -/
theorem scalarText?_eq_some_iff {value : Json} {text : String} :
    scalarText? value = some text ↔ WritesScalar value text := by
  constructor
  · intro found
    unfold scalarText? at found
    split at found
    · cases found
      exact .text _
    · rename_i truth
      cases truth <;> cases found
      · exact .no
      · exact .yes
    · cases found
      exact .whole _
    · cases found
      exact .float _
    · cases found
  · rintro ⟨⟩ <;> rfl

/-- Expected values are read where a value writes them. -/
theorem readValues_eq_ok_iff {raw : String} {value : Json} {texts : List String} :
    readValues raw value = .ok texts ↔ WritesValues value texts := by
  constructor
  · intro accepted
    unfold readValues at accepted
    split at accepted
    · rename_i items
      split at accepted
      · cases accepted
      · rename_i filled
        split at accepted
        · rename_i found all
          cases accepted
          refine .list (by simpa using filled) ?_
          simpa only [scalarText?_eq_some_iff] using mapM_eq_some_iff.mp all
        · cases accepted
    · split at accepted
      · rename_i text scalar
        cases accepted
        exact .single (scalarText?_eq_some_iff.mp scalar)
      · cases accepted
  · intro written
    cases written with
    | single scalar => cases scalar <;> rfl
    | list filled each =>
      rename_i items
      have some : items.isEmpty = false := by simpa using filled
      have all : items.mapM scalarText? = Option.some texts := by
        simpa only [mapM_eq_some_iff, scalarText?_eq_some_iff] using each
      simp [readValues, filled, all]

/-- Values pass their check where they suit the operator of their entry. -/
theorem checkValues_eq_ok_iff_suitable {entry : Entry} :
    checkValues entry.operator entry.key entry.values = .ok () ↔ entry.Suitable := by
  rw [checkValues_eq_ok_iff]
  simp only [isExpected_iff, Condition.Operator.family_eq_null_iff, List.length_eq_one_iff]
  exact ⟨fun ⟨single, readable⟩ => ⟨readable, single⟩, fun suitable =>
    ⟨suitable.single, suitable.readable⟩⟩

/-- An entry of an operator is read where a leaf writes it and its values suit it. -/
theorem readEntry_eq_ok_iff_writes {text : String} {operator : OperatorKey}
    (named : OperatorKey.read text = .ok operator) {member : String × Json} {entry : Entry} :
    readEntry operator member = .ok entry ↔
      WritesEntry ⟨text, member.1, member.2⟩ entry ∧ entry.Suitable := by
  simp only [readEntry_eq_ok_iff, readValues_eq_ok_iff]
  constructor
  · rintro ⟨values, written, checked, rfl⟩
    exact ⟨⟨OperatorKey.read_eq_ok_iff.mp named, rfl, written⟩,
      checkValues_eq_ok_iff_suitable.mp checked⟩
  · rintro ⟨⟨spelled, key, written⟩, suitable⟩
    -- The text is read as one operator only.
    obtain rfl : operator = entry.operator := (OperatorKey.read_eq_ok_iff.mp named).unique spelled
    obtain ⟨_, _, values⟩ := entry
    obtain rfl : _ = member.1 := key
    exact ⟨values, written, checkValues_eq_ok_iff_suitable.mpr suitable, rfl⟩

/-- The entries of an operator are read where each of its members is. -/
theorem readEntries_eq_ok_iff {operator : OperatorKey} {members : Json.Members Json}
    {entries : List Entry} :
    (readEntries index sid operator members).result = .ok entries ↔
      List.Forall₂ (fun member entry => readEntry operator member = .ok entry) members entries := by
  induction members generalizing entries with
  | nil => simp [readEntries, eq_comm]
  | cons first later ih =>
    rw [List.forall₂_cons_left_iff, readEntries]
    simp only [Reading.result_bind, Reading.result_silent, Reading.result_noting,
      Reading.result_pure, bind_eq_ok_iff, ih, Except.ok.injEq]
    constructor
    · rintro ⟨entry, read, _, -, others, behind, rfl⟩
      exact ⟨entry, others, read, behind, rfl⟩
    · rintro ⟨entry, others, read, behind, rfl⟩
      exact ⟨entry, read, (), trivial, others, behind, rfl⟩

/-- A leaf writes an entry whose values suit its operator. -/
def WritesSuitable (leaf : Leaf) (entry : Entry) : Prop :=
  -- Nothing else about an entry is checked.
  WritesEntry leaf entry ∧ entry.Suitable

/-- An operator is read where it has keys, and its leaves write suitable entries. -/
theorem readOperator_eq_ok_iff {member : String × Json} {entries : List Entry} :
    (readOperator index sid member).result = .ok entries ↔
      HasKeys member ∧ List.Forall₂ WritesSuitable (leavesOf member) entries := by
  obtain ⟨text, value⟩ := member
  -- Where the operator can be read, its members are its leaves.
  have inObject {operator : OperatorKey} (named : OperatorKey.read text = .ok operator)
      (inner : Json.Members Json) :
      (readEntries index sid operator inner).result = .ok entries ↔
        List.Forall₂ WritesSuitable (leavesOf (text, .object inner)) entries := by
    simp only [readEntries_eq_ok_iff, leavesOf, List.forall₂_map_left_iff,
      readEntry_eq_ok_iff_writes named, WritesSuitable]
  unfold readOperator
  cases named : OperatorKey.read text with
  | error fault =>
    refine iff_of_false (by simp) ?_
    rintro ⟨⟨inner, filled, rfl⟩, each⟩
    -- The first leaf would name an operator that can be read.
    obtain ⟨first, later, rfl⟩ := List.exists_cons_of_ne_nil filled
    simp only [leavesOf, List.map_cons, List.forall₂_cons_left_iff] at each
    obtain ⟨entry, -, ⟨written, -⟩, -⟩ := each
    cases named.symm.trans (OperatorKey.read_eq_ok_iff.mpr written.operator)
  | ok operator =>
    simp only
    split
    · simp [HasKeys]
    · rename_i inner filled
      rw [inObject named inner]
      simpa [HasKeys] using fun _ => filled
    · rename_i shapeless
      refine iff_of_false (by simp) ?_
      intro ⟨⟨inner, _, object⟩, _⟩
      exact shapeless inner object

/-- The members of a condition are read where each has keys, and the leaves write entries. -/
theorem readOperators_eq_ok_iff {members : Json.Members Json} {entries : List Entry} :
    (readOperators index sid members).result = .ok entries ↔
      (∀ member ∈ members, HasKeys member) ∧
        List.Forall₂ WritesSuitable (leaves members) entries := by
  induction members generalizing entries with
  | nil => simp [readOperators, leaves, eq_comm]
  | cons first later ih =>
    rw [readOperators, leaves, List.flatMap_cons, ← leaves, List.forall_mem_cons,
      forall₂_append_left_iff]
    simp only [Reading.result_bind, Reading.result_pure, bind_eq_ok_iff, readOperator_eq_ok_iff,
      ih, Except.ok.injEq]
    constructor
    · rintro ⟨earlier, ⟨filled, here⟩, others, ⟨filledLater, behind⟩, rfl⟩
      exact ⟨⟨filled, filledLater⟩, earlier, others, rfl, here, behind⟩
    · rintro ⟨⟨filled, filledLater⟩, earlier, others, rfl, here, behind⟩
      exact ⟨earlier, ⟨filled, here⟩, others, ⟨filledLater, behind⟩, rfl⟩

/-- A condition is read where it is missing, or writes entries that suit their operators. -/
theorem readCondition_eq_ok_iff {value : Option Json} {condition : Option (List Entry)} :
    (readCondition index sid value).result = .ok condition ↔
      Option.Rel WritesCondition value condition ∧
        ∀ entry ∈ condition.getD [], entry.Suitable := by
  cases value with
  | none => cases condition <;> simp [readCondition]
  | some value =>
    cases condition with
    | none => cases value <;> simp [readCondition, bind_eq_ok_iff]
    | some entries =>
      rw [Option.rel_some_some, Option.getD_some]
      constructor
      · intro accepted
        cases value with
        | object members =>
          have read : (readOperators index sid members).result = .ok entries := by
            simpa [readCondition, bind_eq_ok_iff] using accepted
          obtain ⟨filled, each⟩ := readOperators_eq_ok_iff.mp read
          obtain ⟨written, suitable⟩ := forall₂_and_right_iff.mp each
          exact ⟨.object filled written, suitable⟩
        | _ => simp [readCondition] at accepted
      · intro ⟨written, suitable⟩
        cases written with
        | object filled each =>
          have all := forall₂_and_right_iff.mpr ⟨each, suitable⟩
          simp [readCondition, bind_eq_ok_iff, readOperators_eq_ok_iff.mpr ⟨filled, all⟩]

end AccessPolicy.Policy.Reader
