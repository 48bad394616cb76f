import AccessPolicy.Proofs.Policy.ConditionFault

/-! Faults of statements: reading reports the first check that fails, and where the statement is. -/

namespace AccessPolicy.Policy

namespace Reader

variable {members : Json.Members Json} {fault : Fault}

/-- The names that reading finds unknown are the unknown ones of an object. -/
theorem areUnknown_iff {known names : List String} :
    AreUnknown known members names ↔
      unknownNames known members ≠ [] ∧ names = unknownNames known members := by
  have each (name : String) : name ∈ unknownNames known members ↔
      name ∈ Json.names members ∧ name ∉ known := by
    simp [unknownNames]
  have increasing : (unknownNames known members).Pairwise (· < ·) := Text.sortedSet_increasing _
  constructor
  · intro unknown
    obtain rfl : names = unknownNames known members :=
      Text.eq_of_increasing unknown.increasing increasing fun name =>
        (unknown.each name).trans (each name).symm
    exact ⟨unknown.filled, rfl⟩
  · rintro ⟨filled, rfl⟩
    exact ⟨filled, increasing, each⟩

/-- An identifier is refused where it is neither missing nor null nor a text. -/
theorem readSid_eq_error_iff :
    readSid members = .error fault ↔
      ¬ IsOptionalText (Json.find? "Sid" members) ∧ fault = .sidNotText := by
  simp only [isOptionalText_iff, ← readSid_eq_ok_iff]
  unfold readSid
  split <;> simp [eq_comm]

/-- Elements are refused where there are unknown ones, which are all reported. -/
theorem checkElements_eq_error_iff :
    checkElements members = .error fault ↔
      ∃ names, AreUnknown statementElements members names ∧
        fault = .unknownStatementElements names := by
  simp only [areUnknown_iff, checkElements]
  split
  · rename_i known
    simp [List.isEmpty_iff.mp known]
  · rename_i unknown
    constructor
    · intro refused
      cases refused
      exact ⟨_, ⟨by simpa using unknown, rfl⟩, rfl⟩
    · rintro ⟨_, ⟨-, rfl⟩, rfl⟩
      rfl

/-- An effect is refused where it is missing, or neither of the two that there are. -/
theorem readEffect_eq_error_iff :
    readEffect members = .error fault ↔
      Json.find? "Effect" members = none ∧ fault = .missingEffect ∨
        ∃ given, Json.find? "Effect" members = some given ∧ given ≠ .string "Allow" ∧
          given ≠ .string "Deny" ∧ fault = .unknownEffect given := by
  have accepted := @readEffect_accepted_iff members
  unfold readEffect at accepted ⊢
  cases there : Json.find? "Effect" members with
  | none => simp [eq_comm]
  | some given =>
    simp only [there, Option.some.injEq] at accepted
    cases known : given.string?.bind fun name => Effect.named.lookup name with
    | none =>
      simp only [known, reduceCtorEq, exists_false, false_iff, not_or] at accepted
      simp [known, accepted, eq_comm]
    | some effect =>
      simp only [known, Except.ok.injEq, exists_eq', true_iff] at accepted
      simp [known, ← not_or, accepted, ← and_assoc]

end Reader

/-- The fault of a value that has to be an object. -/
def shapeFault? (fault : Fault) : Json → Option Fault
  -- What the members are is not asked.
  | .object _ => none
  | _ => some fault

section Shape

variable {fault found : Fault} {value : Json}

/-- Objects have the shape of objects. -/
theorem shapeFault?_eq_none_iff :
    shapeFault? fault value = none ↔ ∃ members, value = .object members := by
  cases value <;> simp [shapeFault?]

/-- All values but objects have the one fault. -/
theorem shapeFault?_eq_some_iff :
    shapeFault? fault value = some found ↔
      (∀ members, value ≠ .object members) ∧ found = fault := by
  cases value <;> simp [shapeFault?, eq_comm]

end Shape

namespace StatementCheck

/-- The fault that reading finds in a value by a check. -/
def fault? (check : StatementCheck) (value : Json) : Option Fault :=
  -- Every check but the first is made on the members.
  match check with
  | .object => shapeFault? .statementNotObject value
  | .sid => faultOf (Reader.readSid (membersOf value))
  | .elements => faultOf (Reader.checkElements (membersOf value))
  | .effect => faultOf (Reader.readEffect (membersOf value))
  | .action =>
    faultOf (Reader.readPatternElement Reader.isActionPattern "Action" (membersOf value))
  | .resource =>
    faultOf (Reader.readPatternElement Reader.isResourcePattern "Resource" (membersOf value))
  | .principal => faultOf (Reader.readPrincipalElement (membersOf value))
  | .condition =>
    -- What is recorded meanwhile has no part in the result.
    faultOf (Reader.readCondition 0 none (Json.find? "Condition" (membersOf value))).result

/-- No fault is found by the checks that a value passes. -/
theorem fault?_eq_none_iff (check : StatementCheck) (value : Json) :
    check.fault? value = none ↔ check.Passes value := by
  cases check with
  | object => exact shapeFault?_eq_none_iff
  | sid => simp only [fault?, Passes, faultOf_eq_none_iff, Reader.readSid_eq_ok_iff,
      isOptionalText_iff]
  | elements =>
    rw [fault?, Passes, faultOf_eq_none_iff, ← Reader.checkElements_eq_ok_iff]
    constructor
    · intro checked
      obtain ⟨_, known⟩ := checked
      exact known
    · intro known
      exact ⟨(), known⟩
  | effect => exact faultOf_eq_none_iff.trans Reader.readEffect_accepted_iff
  | action =>
    exact faultOf_eq_none_iff.trans
      (Reader.readPatternElement_accepted_iff fun _ => isActionPattern_iff)
  | resource =>
    exact faultOf_eq_none_iff.trans
      (Reader.readPatternElement_accepted_iff fun _ => isResourcePattern_iff)
  | principal => exact faultOf_eq_none_iff.trans Reader.readPrincipalElement_accepted_iff
  | condition =>
    exact faultOf_eq_none_iff.trans Reader.readCondition_accepted_iff

/-- The fault that is found by a check is the one with which a value fails it. -/
theorem fault?_eq_some_iff (check : StatementCheck) (value : Json) (fault : Fault) :
    check.fault? value = some fault ↔ check.Fails value fault := by
  cases check with
  | object =>
    rw [fault?, shapeFault?_eq_some_iff]
    constructor
    · rintro ⟨shapeless, rfl⟩
      exact .object shapeless
    · intro fails
      cases fails with
      | object shapeless => exact ⟨shapeless, rfl⟩
  | sid =>
    rw [fault?, faultOf_eq_some_iff, Reader.readSid_eq_error_iff]
    constructor
    · rintro ⟨other, rfl⟩
      exact .sid other
    · intro fails
      cases fails with
      | sid other => exact ⟨other, rfl⟩
  | elements =>
    rw [fault?, faultOf_eq_some_iff, Reader.checkElements_eq_error_iff]
    constructor
    · rintro ⟨names, unknown, rfl⟩
      exact .elements unknown
    · intro fails
      cases fails with
      | elements unknown => exact ⟨_, unknown, rfl⟩
  | effect =>
    rw [fault?, faultOf_eq_some_iff, Reader.readEffect_eq_error_iff]
    constructor
    · rintro (⟨absent, rfl⟩ | ⟨given, there, noAllow, noDeny, rfl⟩)
      · exact .missing absent
      · exact .unknown there noAllow noDeny
    · intro fails
      cases fails with
      | missing absent => exact Or.inl ⟨absent, rfl⟩
      | unknown there noAllow noDeny => exact Or.inr ⟨_, there, noAllow, noDeny, rfl⟩
  | action =>
    rw [fault?, faultOf_eq_some_iff,
      Reader.readPatternElement_eq_error_iff fun _ => isActionPattern_iff]
    exact ⟨.action, fun | .action broken => broken⟩
  | resource =>
    rw [fault?, faultOf_eq_some_iff,
      Reader.readPatternElement_eq_error_iff fun _ => isResourcePattern_iff]
    exact ⟨.resource, fun | .resource broken => broken⟩
  | principal =>
    rw [fault?, faultOf_eq_some_iff, Reader.readPrincipalElement_eq_error_iff]
    exact ⟨.principal, fun | .principal broken => broken⟩
  | condition =>
    rw [fault?, faultOf_eq_some_iff, Reader.readCondition_eq_error_iff]
    exact ⟨fun ⟨_, there, broken⟩ => .condition there broken,
      fun | .condition there broken => ⟨_, there, broken⟩⟩

/-- A value passes all checks where it is a statement. -/
theorem forall_passes_iff {value : Json} :
    (∀ check : StatementCheck, check.Passes value) ↔ IsStatementObject value := by
  constructor
  · intro passes
    obtain ⟨members, rfl⟩ := passes .object
    exact ⟨members, rfl, passes .elements, passes .sid, passes .effect, passes .action,
      passes .resource, passes .principal, passes .condition⟩
  · rintro ⟨members, rfl, statement⟩ check
    cases check with
    | object => exact ⟨members, rfl⟩
    | sid => exact statement.sid
    | elements => exact statement.known
    | effect => exact statement.effect
    | action => exact statement.action
    | resource => exact statement.resource
    | principal => exact statement.principal
    | condition => exact statement.condition

end StatementCheck

namespace Reader

variable {index : Nat} {value : Json} {rejection : Rejection}

/-- The fault of a condition depends on neither the place nor the identifier of its statement. -/
theorem faultOf_readCondition {sid : Option String} {value : Option Json} :
    faultOf (readCondition index sid value).result =
      faultOf (readCondition 0 none value).result := by
  ext fault
  rw [faultOf_eq_some_iff, faultOf_eq_some_iff, readCondition_eq_error_iff,
    readCondition_eq_error_iff]

/-- Reading a statement finds the fault of the first check that finds one. -/
theorem fault_readStatement (index : Nat) (value : Json) :
    (faultOf (readStatement index value).result).map Rejection.fault =
      StatementCheck.all.findSome? fun check => check.fault? value := by
  cases value with
  | object members =>
    simp only [StatementCheck.all, List.findSome?_cons, List.findSome?_nil,
      StatementCheck.fault?, shapeFault?, membersOf, readStatement, readElements,
      Reading.result_bind, Reading.result_silent, Reading.result_mapFault]
    cases readSid members with
    | error fault => rfl
    | ok sid =>
      -- One element after the other is read, or its fault is the result.
      cases checkElements members with
      | error fault => rfl
      | ok known =>
        cases readEffect members with
        | error fault => rfl
        | ok effect =>
          cases readPatternElement isActionPattern "Action" members with
          | error fault => rfl
          | ok action =>
            cases readPatternElement isResourcePattern "Resource" members with
            | error fault => rfl
            | ok resource =>
              cases readPrincipalElement members with
              | error fault => rfl
              | ok principal =>
                -- Only the condition is left, whose fault does not depend on the statement.
                rw [← @faultOf_readCondition index sid]
                let reading := readCondition index sid (Json.find? "Condition" members)
                change (faultOf (reading.result.mapError _ >>= _)).map _ = _
                cases reading.result <;> rfl
  | _ => rfl

/-- The identifier of an object is what is read as one, or none where that is refused. -/
theorem sidOf_object (members : Json.Members Json) :
    sidOf (.object members) = (readSid members).toOption.join := by
  rw [sidOf, membersOf, readSid]
  rcases Json.find? "Sid" members with _ | value
  · rfl
  · cases value <;> rfl

/-- A rejected statement is named by its place, and by its identifier. -/
theorem place_of_readStatement (refused : (readStatement index value).result = .error rejection) :
    rejection.place = ⟨some index, sidOf value⟩ := by
  cases value with
  | object members =>
    rw [sidOf_object]
    simp only [readStatement, Reading.result_bind, Reading.result_silent, Reading.result_mapFault,
      Reading.result_pure, bind_eq_error_iff, mapError_eq_error_iff, mapError_eq_ok_iff,
      reduceCtorEq, and_false, exists_false, or_false] at refused
    -- Once the identifier is read it is part of every place.
    rcases refused with ⟨fault, unread, rfl⟩ |
      ⟨sid, read, ⟨fault, -, rfl⟩ | ⟨_, -, ⟨fault, -, rfl⟩⟩⟩
    · rw [unread]
      rfl
    · rw [read]
      rfl
    · rw [read]
      rfl
  | _ =>
    cases refused
    rfl

/-- A statement is rejected for the first check that its value fails. -/
theorem exists_check_of_readStatement
    (refused : (readStatement index value).result = .error rejection) :
    ∃ check : StatementCheck,
      IsFirstWithout (fun check => check.Passes value) StatementCheck.all check ∧
        check.Fails value rejection.fault := by
  have found := fault_readStatement index value
  rw [refused] at found
  exact (findSome?_eq_some_iff_first (fun check => check.fault?_eq_none_iff value)
    fun check fault => check.fault?_eq_some_iff value fault).mp found.symm

/-- The first check that fails settles the fault for which a statement is rejected. -/
theorem fault_eq_of_check (refused : (readStatement index value).result = .error rejection)
    {check : StatementCheck} {fault : Fault}
    (first : IsFirstWithout (fun check => check.Passes value) StatementCheck.all check)
    (fails : check.Fails value fault) : rejection.fault = fault := by
  have found := fault_readStatement index value
  rw [refused, (findSome?_eq_some_iff_first (fun check => check.fault?_eq_none_iff value)
    fun check fault => check.fault?_eq_some_iff value fault).mpr ⟨check, first, fails⟩] at found
  exact Option.some.inj found

end Reader

end AccessPolicy.Policy
