import AccessPolicy.Proofs.Evaluation.Alike
import AccessPolicy.Proofs.Evaluation.Refusal

/-! The order of statements decides nothing, neither in reading nor in evaluating. -/

namespace AccessPolicy

open Policy (Statement Document)

namespace Survey

variable {request : Request} {first second : List Statement}

/-- Lists that become each other by moving statements say the same. -/
theorem saidIn_of_perm
    (moved : (first.map (·.placedAt 0)).Perm (second.map (·.placedAt 0))) :
    ∀ statement ∈ first, statement.SaidIn second := by
  intro statement member
  have there : statement.placedAt 0 ∈ second.map (·.placedAt 0) :=
    moved.mem_iff.mp (List.mem_map_of_mem member)
  obtain ⟨other, inside, alike⟩ := List.mem_map.mp there
  exact ⟨other, inside, alike.symm⟩

/-- Where all places are left aside, surveying and moving statements can be exchanged. -/
theorem map_applying {statements : List Statement}
    (complete : (of request statements).failure = none) :
    (of request statements).applying.map (·.placedAt 0) =
      (statements.map (·.placedAt 0)).filter fun statement =>
        decide (statement.Applies request) := by
  rw [applying_of_failure_eq_none complete, List.filter_map]
  -- A statement applies to the same requests at every place.
  congr 1
  refine List.filter_congr fun statement _ => ?_
  have alike : statement.Alike (statement.placedAt 0) := rfl
  exact decide_eq_decide.mpr (alike.applies_iff request)

/-- Moving statements moves the applying ones along. -/
theorem applying_perm (moved : (first.map (·.placedAt 0)).Perm (second.map (·.placedAt 0)))
    (complete : (of request first).failure = none)
    (completeToo : (of request second).failure = none) :
    ((of request first).applying.map (·.placedAt 0)).Perm
      ((of request second).applying.map (·.placedAt 0)) := by
  rw [map_applying complete, map_applying completeToo]
  exact moved.filter _

end Survey

namespace Policy

variable {members : Json.Members Json} {statements permuted : List Json}

/-- Whether a list of statements makes an acceptable document does not depend on their order. -/
theorem Document.accepted_perm
    (listed : Json.find? "Statement" members = some (.array statements))
    (reordered : statements.Perm permuted) :
    (∃ first, (Document.read (.object members)).result = .ok first) ↔
      ∃ second, (Document.read
        (.object (Json.put "Statement" (.array permuted) members))).result = .ok second := by
  simp only [Document.accepted_iff, Reader.readOutline_put listed]
  constructor
  · rintro ⟨outline, outlined, each⟩
    obtain rfl := Reader.statements_of_readOutline listed outlined
    exact ⟨{ outline with statements := permuted }, ⟨rfl, outlined⟩, fun value member =>
      each value (reordered.mem_iff.mpr member)⟩
  · rintro ⟨outline, ⟨rfl, outlined⟩, each⟩
    exact ⟨_, outlined, fun value member => each value (reordered.mem_iff.mp member)⟩

/-- Documents of the same statements in two orders say the same where all places are left aside. -/
theorem Document.map_placedAt_perm {first second : Document}
    (read : (Reader.readStatements 0 statements).result = .ok first.statements)
    (readToo : (Reader.readStatements 0 permuted).result = .ok second.statements)
    (reordered : statements.Perm permuted) :
    (first.statements.map (·.placedAt 0)).Perm (second.statements.map (·.placedAt 0)) := by
  rw [Reader.map_placedAt_of_readStatements read, Reader.map_placedAt_of_readStatements readToo]
  exact reordered.filterMap _

/-- A value that stands in two accepted lists is read as the same statement there. -/
theorem Document.placedAt_mem_iff_of_value {first second : Document}
    (read : (Reader.readStatements 0 statements).result = .ok first.statements)
    (readToo : (Reader.readStatements 0 permuted).result = .ok second.statements)
    {here there : Nat} {value : Json} (found : statements[here]? = some value)
    (foundToo : permuted[there]? = some value) (statement : Statement) :
    statement.placedAt here ∈ first.statements ↔ statement.placedAt there ∈ second.statements := by
  rw [Reader.placedAt_mem_iff read, Reader.placedAt_mem_iff readToo]
  simp only [found, foundToo, Option.some.injEq, exists_eq_left']
  exact Reader.readStatement_placedAt_iff here there

/--
The order of the statements of a policy changes nothing that depends on them.

Policies with the same statements in two orders are both accepted or both rejected, and if they
are accepted, then requests are decided alike by both or refused by both. The applying statements
are the same but for their places.
-/
theorem Document.evaluate_perm
    (listed : Json.find? "Statement" members = some (.array statements))
    (reordered : statements.Perm permuted) (request : Request) :
    ((∃ first, (Document.read (.object members)).result = .ok first) ↔
      ∃ second, (Document.read
        (.object (Json.put "Statement" (.array permuted) members))).result = .ok second) ∧
    ∀ first second, (Document.read (.object members)).result = .ok first →
      (Document.read (.object (Json.put "Statement" (.array permuted) members))).result =
          .ok second →
        (∃ outcome, first.evaluate request = .ok outcome ∧ second.evaluate request = .ok outcome ∧
          ((first.survey request).applying.map (·.placedAt 0)).Perm
            ((second.survey request).applying.map (·.placedAt 0)) ∧
          ∀ (here there : Nat) (value : Json), statements[here]? = some value →
            permuted[there]? = some value → ∀ statement : Statement,
              statement.placedAt here ∈ (first.survey request).applying ↔
                statement.placedAt there ∈ (second.survey request).applying) ∨
        ∃ error other, first.evaluate request = .error error ∧
          second.evaluate request = .error other ∧
          error.fault.kind = .unsupportedCondition ∧ other.fault.kind = .unsupportedCondition := by
  refine ⟨accepted_perm listed reordered, fun first second accepted acceptedToo => ?_⟩
  have read := readStatements_of_listed listed accepted
  have readToo := readStatements_of_listed (Json.find?_put _ _ _) acceptedToo
  have moved := map_placedAt_perm read readToo reordered
  have forth := Survey.saidIn_of_perm moved
  have back := Survey.saidIn_of_perm moved.symm
  cases evaluated : first.evaluate request with
  | ok outcome =>
    obtain ⟨complete, rfl⟩ := evaluate_eq_ok_iff.mp evaluated
    have completeToo := Survey.failure_eq_none_of_saidIn back complete
    have same : (first.survey request).outcome = (second.survey request).outcome :=
      Survey.outcome_eq_of_saidIn (Survey.saidIn_applying forth completeToo)
        (Survey.saidIn_applying back complete)
    refine Or.inl ⟨_, rfl, evaluate_eq_ok_iff.mpr ⟨completeToo, same⟩,
      Survey.applying_perm moved complete completeToo, ?_⟩
    intro here there value found foundToo statement
    have alike : (statement.placedAt here).Alike (statement.placedAt there) := rfl
    rw [Document.survey, Document.survey, Survey.mem_applying_iff complete,
      Survey.mem_applying_iff completeToo, alike.applies_iff request,
      placedAt_mem_iff_of_value read readToo found foundToo]
  | error error =>
    cases evaluatedToo : second.evaluate request with
    | ok outcome =>
      -- What decides every statement of the second document decides those of the first.
      obtain ⟨completeToo, -⟩ := evaluate_eq_ok_iff.mp evaluatedToo
      have complete := Survey.failure_eq_none_of_saidIn forth completeToo
      rw [evaluate_eq_ok_iff.mpr ⟨complete, rfl⟩] at evaluated
      cases evaluated
    | error other =>
      exact Or.inr ⟨error, other, rfl, rfl, kind_of_suitable (read_suitable accepted) evaluated,
        kind_of_suitable (read_suitable acceptedToo) evaluatedToo⟩

/-- A permission to do everything to one bucket. -/
def grantValue : Json :=
  -- It has no identifier.
  .object [("Effect", .string "Allow"), ("Action", .string "s3:*"), ("Resource", .string "*")]

/-- A denial of deletions. -/
def guardValue : Json :=
  -- Its identifier is part of outcomes.
  .object [("Sid", .string "Keep"), ("Effect", .string "Deny"),
    ("Action", .string "s3:Delete*"), ("Resource", .string "*")]

/-- The document of a permission before a denial of a part of it. -/
def grantingDocument : Document :=
  -- The denial is at the second place.
  ⟨"2008-10-17", none,
    [⟨0, none, .allow, .only ["s3:*"], .only ["*"], none, none⟩,
      ⟨1, some "Keep", .deny, .only ["s3:Delete*"], .only ["*"], none, none⟩]⟩

/-- The document of the same two statements with the denial before the permission. -/
def guardingDocument : Document :=
  -- Only the places have changed.
  ⟨"2008-10-17", none,
    [⟨0, some "Keep", .deny, .only ["s3:Delete*"], .only ["*"], none, none⟩,
      ⟨1, none, .allow, .only ["s3:*"], .only ["*"], none, none⟩]⟩

/-- The denial counts before the permission and behind it. -/
theorem evaluate_swapped :
    (Document.read (.object [("Statement", .array [grantValue, guardValue])])).result =
        .ok grantingDocument ∧
      (Document.read (.object [("Statement", .array [guardValue, grantValue])])).result =
        .ok guardingDocument ∧
      ∃ outcome,
        grantingDocument.evaluate ⟨"s3:DeleteObject", "arn:aws:s3:::b/k", none, .empty⟩ =
          .ok outcome ∧
        guardingDocument.evaluate ⟨"s3:DeleteObject", "arn:aws:s3:::b/k", none, .empty⟩ =
          .ok outcome := by
  have accepted : (Document.read
      (.object [("Statement", .array [grantValue, guardValue])])).result = .ok grantingDocument :=
    eq_ok_of_toOption (by decide +kernel)
  have acceptedToo : (Document.read
      (.object [("Statement", .array [guardValue, grantValue])])).result = .ok guardingDocument :=
    eq_ok_of_toOption (by decide +kernel)
  refine ⟨accepted, acceptedToo, ?_⟩
  rcases (Document.evaluate_perm rfl (.swap guardValue grantValue []) _).2 _ _ accepted
    acceptedToo with ⟨outcome, left, right, -⟩ | ⟨error, -, refused, -⟩
  · exact ⟨outcome, left, right⟩
  · have decided : grantingDocument.evaluate ⟨"s3:DeleteObject", "arn:aws:s3:::b/k", none, .empty⟩ =
        .ok ⟨.explicitDeny, ["Keep"]⟩ := eq_ok_of_toOption (by decide +kernel)
    cases decided.symm.trans refused

end Policy

end AccessPolicy
