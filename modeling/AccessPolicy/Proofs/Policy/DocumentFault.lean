import AccessPolicy.Proofs.Policy.StatementFault

/-! Faults of documents apart from their statements: reading reports the first check that fails. -/

namespace AccessPolicy.Policy

namespace Reader

variable {members : Json.Members Json} {fault : Fault}

/-- A version is refused where it is no text, or none of the two that exist. -/
theorem readVersion_eq_error_iff :
    readVersion members = .error fault ↔
      (∃ given, Json.find? "Version" members = some given ∧ (∀ text, given ≠ .string text) ∧
          fault = .versionNotText) ∨
        ∃ text, Json.find? "Version" members = some (.string text) ∧ text ∉ Fault.versions ∧
          fault = .unsupportedVersion text := by
  unfold readVersion
  cases Json.find? "Version" members with
  | none => simp [defaultVersion, Fault.versions]
  | some given =>
    cases given with
    | string text => by_cases published : text ∈ Fault.versions <;> simp [published, eq_comm]
    | _ => simp [eq_comm]

/-- An identifier is refused where it is neither missing nor null nor a text. -/
theorem readId_eq_error_iff :
    readId members = .error fault ↔
      ¬ IsOptionalText (Json.find? "Id" members) ∧ fault = .idNotText := by
  simp only [isOptionalText_iff, ← readId_eq_ok_iff]
  unfold readId
  split <;> simp [eq_comm]

/-- A value lists statements where it is an object, for itself alone, or an array. -/
theorem lists_iff {given : Json} {values : List Json} :
    Lists given values ↔
      (∃ statement, given = .object statement ∧ values = [given]) ∨ given = .array values := by
  constructor
  · rintro (members | values)
    · exact Or.inl ⟨members, rfl, rfl⟩
    · exact Or.inr rfl
  · rintro (⟨statement, rfl, rfl⟩ | rfl)
    · exact .single statement
    · exact .list values

/-- The values of a list of statements are what is read as them. -/
theorem statementsOf_eq_ok_iff_lists {values : List Json} :
    statementsOf members = .ok values ↔
      ∃ given, Json.find? "Statement" members = some given ∧ Lists given values := by
  simp only [statementsOf_eq_ok_iff, lists_iff]

/-- Statements are refused where they are missing, or are neither an object nor a list. -/
theorem statementsOf_eq_error_iff :
    statementsOf members = .error fault ↔
      Json.find? "Statement" members = none ∧ fault = .missingStatement ∨
        ∃ given, Json.find? "Statement" members = some given ∧ (∀ values, ¬ Lists given values) ∧
          fault = .statementsNotObjects := by
  unfold statementsOf
  cases Json.find? "Statement" members with
  | none => simp [eq_comm]
  | some given => cases given <;> simp [lists_iff, eq_comm]

end Reader

namespace DocumentCheck

/-- Every check is made. -/
theorem mem_all (check : DocumentCheck) : check ∈ all := by
  cases check <;> decide

/-- The fault that reading finds in a tree by a check. -/
def fault? (check : DocumentCheck) (tree : Json) : Option Fault :=
  -- Every check but the first is made on the members.
  match check with
  | .object => shapeFault? .documentNotObject tree
  | .elements =>
    match Reader.unknownNames Reader.documentElements (membersOf tree) with
    | [] => none
    | unknown => some (.unknownElements unknown)
  | .version => faultOf (Reader.readVersion (membersOf tree))
  | .id => faultOf (Reader.readId (membersOf tree))
  | .statement => faultOf (Reader.statementsOf (membersOf tree))

/-- No fault is found by the checks that a tree passes. -/
theorem fault?_eq_none_iff (check : DocumentCheck) (tree : Json) :
    check.fault? tree = none ↔ check.Passes tree := by
  cases check with
  | object => exact shapeFault?_eq_none_iff
  | elements =>
    rw [fault?, Passes, ← Reader.unknownNames_eq_nil_iff]
    cases Reader.unknownNames Reader.documentElements (membersOf tree) <;> simp
  | version => exact faultOf_eq_none_iff.trans Reader.readVersion_accepted_iff
  | id => simp only [fault?, Passes, faultOf_eq_none_iff, Reader.readId_eq_ok_iff,
      isOptionalText_iff]
  | statement =>
    rw [fault?, Passes, faultOf_eq_none_iff, exists_comm]
    simp only [Reader.statementsOf_eq_ok_iff_lists]

/-- The fault that is found by a check is the one with which a tree fails it. -/
theorem fault?_eq_some_iff (check : DocumentCheck) (tree : Json) (fault : Fault) :
    check.fault? tree = some fault ↔ check.Fails tree fault := by
  cases check with
  | object =>
    rw [fault?, shapeFault?_eq_some_iff]
    constructor
    · rintro ⟨shapeless, rfl⟩
      exact .object shapeless
    · intro fails
      cases fails with
      | object shapeless => exact ⟨shapeless, rfl⟩
  | elements =>
    rw [fault?]
    constructor
    · intro found
      split at found
      · cases found
      · rename_i filled
        cases found
        exact .elements (Reader.areUnknown_iff.mpr ⟨filled, rfl⟩)
    · intro fails
      cases fails with
      | elements unknown =>
        obtain ⟨filled, rfl⟩ := Reader.areUnknown_iff.mp unknown
        split
        · contradiction
        · rfl
  | version =>
    rw [fault?, faultOf_eq_some_iff, Reader.readVersion_eq_error_iff]
    constructor
    · rintro (⟨given, there, other, rfl⟩ | ⟨text, there, unpublished, rfl⟩)
      · exact .noText there other
      · exact .unsupported there unpublished
    · intro fails
      cases fails with
      | noText there other => exact Or.inl ⟨_, there, other, rfl⟩
      | unsupported there unpublished => exact Or.inr ⟨_, there, unpublished, rfl⟩
  | id =>
    rw [fault?, faultOf_eq_some_iff, Reader.readId_eq_error_iff]
    constructor
    · rintro ⟨other, rfl⟩
      exact .id other
    · intro fails
      cases fails with
      | id other => exact ⟨other, rfl⟩
  | statement =>
    rw [fault?, faultOf_eq_some_iff, Reader.statementsOf_eq_error_iff]
    constructor
    · rintro (⟨absent, rfl⟩ | ⟨given, there, unlisted, rfl⟩)
      · exact .missing absent
      · exact .shape there unlisted
    · intro fails
      cases fails with
      | missing absent => exact Or.inl ⟨absent, rfl⟩
      | shape there unlisted => exact Or.inr ⟨_, there, unlisted, rfl⟩

/-- Reading a tree up to its statements finds the fault of the first check that finds one. -/
theorem fault_readOutline (tree : Json) :
    faultOf (Reader.readOutline tree) =
      all.findSome? fun check => check.fault? tree := by
  cases tree with
  | object members =>
    simp only [all, List.findSome?_cons, List.findSome?_nil, fault?, shapeFault?, membersOf,
      Reader.readOutline]
    cases Reader.unknownNames Reader.documentElements members with
    | cons name others => rfl
    | nil =>
      -- One element after the other is read, or its fault is the result.
      cases Reader.readVersion members with
      | error fault => rfl
      | ok version =>
        cases Reader.readId members with
        | error fault => rfl
        | ok id => cases Reader.statementsOf members <;> rfl
  | _ => rfl

end DocumentCheck

/-- A tree is refused apart from its statements for the first check that it fails. -/
theorem exists_check_of_readOutline {tree : Json} {fault : Fault}
    (refused : Reader.readOutline tree = .error fault) :
    ∃ check : DocumentCheck,
      IsFirstWithout (fun check => check.Passes tree) DocumentCheck.all check ∧
        check.Fails tree fault := by
  have found := DocumentCheck.fault_readOutline tree
  rw [refused] at found
  exact (findSome?_eq_some_iff_first (fun check => check.fault?_eq_none_iff tree)
    fun check fault => check.fault?_eq_some_iff tree fault).mp found.symm

/-- A tree lists values as its statements where it is read up to them. -/
theorem hasStatements_iff {tree : Json} {values : List Json} :
    HasStatements tree values ↔
      ∃ outline, Reader.readOutline tree = .ok outline ∧ outline.statements = values := by
  have read : (∃ outline, Reader.readOutline tree = .ok outline) ↔
      ∀ check : DocumentCheck, check.Passes tree := by
    rw [← faultOf_eq_none_iff, DocumentCheck.fault_readOutline, List.findSome?_eq_none_iff]
    simp only [DocumentCheck.fault?_eq_none_iff]
    exact ⟨fun passes check => passes check check.mem_all, fun passes check _ => passes check⟩
  constructor
  · intro ⟨passes, listed⟩
    obtain ⟨outline, outlined⟩ := read.mpr passes
    refine ⟨outline, outlined, ?_⟩
    obtain ⟨members, rfl, -, -, -, found⟩ := Reader.readOutline_eq_ok_iff.mp outlined
    exact Except.ok.inj (found.symm.trans (Reader.statementsOf_eq_ok_iff_lists.mpr listed))
  · rintro ⟨outline, outlined, rfl⟩
    refine ⟨read.mp ⟨outline, outlined⟩, ?_⟩
    obtain ⟨members, rfl, -, -, -, found⟩ := Reader.readOutline_eq_ok_iff.mp outlined
    exact Reader.statementsOf_eq_ok_iff_lists.mp found

end AccessPolicy.Policy
