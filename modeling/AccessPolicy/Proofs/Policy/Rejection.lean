import AccessPolicy.Proofs.Policy.DocumentFault
import AccessPolicy.Proofs.Policy.StatementFault

/-! Rejected documents: the report is about the first fault, and leads to where it is. -/

namespace AccessPolicy.Policy

namespace Reader

variable {index : Nat} {value : Json} {rejection : Rejection}

/-- A rejection names an operator where the first fault is in that member of the condition. -/
theorem operator_of_readStatement
    (refused : (readStatement index value).result = .error rejection) {raw : String} :
    rejection.fault.operator = some raw ↔ HasFaultyOperator value raw := by
  constructor
  · intro named
    obtain ⟨check, first, fails⟩ := exists_check_of_readStatement refused
    obtain ⟨rfl, operator⟩ := fails.exists_operator named
    exact ⟨first, operator⟩
  · intro ⟨first, members, body, there, firstMember⟩
    -- The member is refused for something, and that is what is reported.
    have unfit := firstMember.unfit
    rw [← @readOperator_accepted_iff index none, ← faultOf_eq_none_iff] at unfit
    obtain ⟨fault, found⟩ := Option.ne_none_iff_exists'.mp unfit
    have broken := readOperator_eq_error_iff.mp (faultOf_eq_some_iff.mp found)
    have fails : StatementCheck.condition.Fails value fault :=
      .condition there (.member firstMember broken)
    rw [fault_eq_of_check refused first fails]
    exact broken.operator_eq

/-- Reading a list ends at the first value that is no statement, whatever comes behind it. -/
theorem readStatements_rejected_iff {values : List Json} :
    (readStatements index values).result = .error rejection ↔
      ∃ before value after, values = before ++ value :: after ∧
        (∀ other ∈ before, IsStatementObject other) ∧
          (readStatement (index + before.length) value).result = .error rejection := by
  induction values generalizing index with
  | nil => simp [readStatements]
  | cons first later ih =>
    have place (count : Nat) : index + 1 + count = index + (count + 1) := by omega
    rw [readStatements]
    simp only [Reading.result_bind, Reading.result_pure, bind_eq_error_iff, ih, reduceCtorEq,
      and_false, exists_false, or_false]
    constructor
    · rintro (refused | ⟨statement, read, before, value, after, rfl, earlier, refused⟩)
      · exact ⟨[], first, later, rfl, by simp, refused⟩
      · have fit : IsStatementObject first := readStatement_accepted_iff.mp ⟨statement, read⟩
        exact ⟨first :: before, value, after, rfl, List.forall_mem_cons.mpr ⟨fit, earlier⟩,
          place _ ▸ refused⟩
    · intro rejected
      obtain ⟨before, value, after, split, earlier, refused⟩ := rejected
      cases before with
      | nil =>
        obtain ⟨rfl, -⟩ := List.cons_eq_cons.mp split
        exact Or.inl refused
      | cons head rest =>
        obtain ⟨rfl, rfl⟩ := List.cons_eq_cons.mp split
        obtain ⟨fit, others⟩ := List.forall_mem_cons.mp earlier
        obtain ⟨statement, read⟩ := readStatement_accepted_iff.mpr fit
        exact Or.inr ⟨statement, read, rest, value, after, rfl, others, (place _).symm ▸ refused⟩

end Reader

/-- A document is rejected for its outline, or for the first statement that is rejected. -/
theorem Document.read_eq_error_iff {tree : Json} {rejection : Rejection} :
    (Document.read tree).result = .error rejection ↔
      (∃ fault, Reader.readOutline tree = .error fault ∧ rejection = ⟨fault, nowhere⟩) ∨
        ∃ values, HasStatements tree values ∧
          (Reader.readStatements 0 values).result = .error rejection := by
  simp only [hasStatements_iff, Document.read, Reading.result_bind, Reading.result_silent,
    Reading.result_noting, Reading.result_pure, bind_eq_error_iff, mapError_eq_error_iff,
    mapError_eq_ok_iff, reduceCtorEq, and_false, exists_false, or_false]
  constructor
  · rintro (⟨fault, refused, rfl⟩ | ⟨outline, read, refused⟩)
    · exact Or.inl ⟨fault, refused, rfl⟩
    · exact Or.inr ⟨_, ⟨outline, read, rfl⟩, refused⟩
  · rintro (⟨fault, refused, rfl⟩ | ⟨_, ⟨outline, read, rfl⟩, refused⟩)
    · exact Or.inl ⟨fault, refused, rfl⟩
    · exact Or.inr ⟨outline, read, refused⟩

/-- A rejection is about a document apart from its statements. -/
structure Rejection.ConcernsDocument (rejection : Rejection) (tree : Json) : Prop where
  place : rejection.report.place = ⟨none, none⟩
  operator : rejection.report.operator = none
  check : ∃ check : DocumentCheck,
    IsFirstWithout (fun check => check.Passes tree) DocumentCheck.all check ∧
      check.Fails tree rejection.fault

/-- A rejection is about one of the statements of a document, in front of which others stand. -/
structure Rejection.ConcernsStatement (rejection : Rejection) (before : List Json) (value : Json) :
    Prop where
  place : rejection.report.place = ⟨some before.length, sidOf value⟩
  earlier : ∀ other ∈ before, IsStatementObject other
  broken : ¬ IsStatementObject value
  check : ∃ check : StatementCheck,
    IsFirstWithout (fun check => check.Passes value) StatementCheck.all check ∧
      check.Fails value rejection.fault
  operator : ∀ raw, rejection.report.operator = some raw ↔ HasFaultyOperator value raw
  /-- What stands behind the statement does not matter. -/
  kept : ∀ tree others, HasStatements tree (before ++ value :: others) →
    (Document.read tree).result = .error rejection

/--
Whatever document is rejected, the report is about its first fault and leads to the right place.

Only faults of the document apart from its statements have no place among the statements.
Any other report names the first value that is no statement, with its identifier if that is a text.
It is about the first check that this value fails, and names an operator where that check ends in a
member of the condition.
What stands behind the value may change, or go away, and the rejection stays the same.
-/
theorem Document.rejection_concerns {tree : Json} {rejection : Rejection}
    (rejected : (Document.read tree).result = .error rejection) :
    (rejection.report.place.index = none ↔ ∃ check : DocumentCheck, ¬ check.Passes tree) ∧
      (rejection.ConcernsDocument tree ∨
        ∃ before value after, HasStatements tree (before ++ value :: after) ∧
          rejection.ConcernsStatement before value) := by
  rcases read_eq_error_iff.mp rejected with ⟨fault, refused, rfl⟩ | ⟨values, outlined, found⟩
  · obtain ⟨check, first, fails⟩ := exists_check_of_readOutline refused
    exact ⟨iff_of_true rfl ⟨check, first.unfit⟩,
      Or.inl ⟨rfl, fails.operator_eq_none, check, first, fails⟩⟩
  · obtain ⟨before, value, after, rfl, earlier, refused⟩ :=
      Reader.readStatements_rejected_iff.mp found
    have place : rejection.report.place = ⟨some before.length, sidOf value⟩ := by
      simpa [Rejection.report, Fault.report] using Reader.place_of_readStatement refused
    obtain ⟨check, first, fails⟩ := Reader.exists_check_of_readStatement refused
    have unfit : ¬ IsStatementObject value := by
      intro statement
      exact first.unfit (StatementCheck.forall_passes_iff.mpr statement check)
    refine ⟨iff_of_false (by simp [place]) ?_, Or.inr ⟨before, value, after, outlined, ?_⟩⟩
    · intro failed
      obtain ⟨other, unpassed⟩ := failed
      exact unpassed (outlined.passes other)
    · refine ⟨place, earlier, unfit, ⟨check, first, fails⟩,
        fun raw => Reader.operator_of_readStatement refused, fun other rest has => ?_⟩
      have still : (Reader.readStatements 0 (before ++ value :: rest)).result = .error rejection :=
        Reader.readStatements_rejected_iff.mpr ⟨before, value, rest, rfl, earlier, refused⟩
      exact read_eq_error_iff.mpr (Or.inr ⟨_, has, still⟩)

/-- A policy with an operator that does not exist, and with more faults behind it. -/
def mistypedTree : Json :=
  -- The operator after it has no keys, and the third statement is no object.
  .object [("Version", .string "2012-10-17"), ("Statement", .array [
    .object [("Effect", .string "Allow"), ("Action", .string "s3:*"), ("Resource", .string "*")],
    .object [("Sid", .string "Second"), ("Effect", .string "Deny"), ("Action", .string "s3:*"),
      ("Resource", .string "*"), ("Condition", .object [
        ("Bool", .object [("mfa", .bool true)]), ("Boolean", .object [("mfa", .bool true)]),
        ("Null", .object [])])],
    .null])]

/-- The report about the operator. -/
def mistypedReport : Report :=
  -- The statement has an identifier, which is part of the place.
  ⟨.schemaViolation, "Unknown condition operator 'Boolean'", ⟨some 1, some "Second"⟩,
    some "Condition", some "Boolean"⟩

/-- The report about the policy leads to the operator, past which nothing was looked at. -/
theorem rejection_mistypedTree :
    ∃ rejection, (Document.read mistypedTree).result = .error rejection ∧
      rejection.report = mistypedReport ∧ (∀ check : DocumentCheck, check.Passes mistypedTree) ∧
      ∃ before value after, HasStatements mistypedTree (before ++ value :: after) ∧
        before.length = 1 ∧ sidOf value = some "Second" ∧ HasFaultyOperator value "Boolean" := by
  have shown : (faultOf (Document.read mistypedTree).result).map Rejection.report =
      some mistypedReport := by
    decide +kernel
  obtain ⟨rejection, found, same⟩ := Option.map_eq_some_iff.mp shown
  have rejected := faultOf_eq_some_iff.mp found
  obtain ⟨outside, document | ⟨before, value, after, outlined, concerns⟩⟩ :=
    Document.rejection_concerns rejected
  · -- The report has a place among the statements.
    cases document.place.symm.trans (congrArg Report.place same)
  · have place := concerns.place.symm.trans (congrArg Report.place same)
    have operator := (concerns.operator "Boolean").mp (congrArg Report.operator same)
    simp only [mistypedReport, StatementPlace.mk.injEq, Option.some.injEq] at place
    exact ⟨rejection, rejected, same, outlined.passes, before, value, after, outlined,
      by omega, place.2, operator⟩

end AccessPolicy.Policy
