import AccessPolicy.Proofs.Evaluation.Alike
import AccessPolicy.Proofs.Result

/-! Statements in a row are decided by the join of the outcomes of their parts. -/

namespace AccessPolicy

open Policy (Statement Document)

/-- The weightier one of two outcomes, or both together where they weigh the same. -/
def Outcome.join (outcome other : Outcome) : Outcome :=
  -- The statements behind an outweighed decision are not named.
  if other.decision.rank < outcome.decision.rank then outcome
  else if outcome.decision.rank < other.decision.rank then other
  else ⟨outcome.decision, Text.sortedSet (outcome.sids ++ other.sids)⟩

namespace Survey

variable {survey first second : Survey}

/-- The weightier of two surveys taken together settles the outcome alone. -/
theorem outcome_eq_of_lighter
    (together : ∀ statement, statement ∈ survey.applying ↔
      statement ∈ first.applying ∨ statement ∈ second.applying)
    (lighter : second.outcome.decision.rank < first.outcome.decision.rank) :
    survey.outcome = first.outcome := by
  apply outcome_eq_of_outweighed
  · intro statement member
    exact ⟨statement, (together statement).mpr (Or.inl member), .refl statement⟩
  · intro statement member
    rcases (together statement).mp member with inside | beside
    · exact Or.inl ⟨statement, inside, .refl statement⟩
    · exact Or.inr (Nat.lt_of_le_of_lt (rank_le_outcome beside) lighter)

/-- Two surveys of one decision lead to it together as well. -/
theorem decision_eq_of_same
    (together : ∀ statement, statement ∈ survey.applying ↔
      statement ∈ first.applying ∨ statement ∈ second.applying)
    (same : second.outcome.decision = first.outcome.decision) :
    survey.outcome.decision = first.outcome.decision := by
  apply decision_eq_of_weightiest
  · intro statement member
    rcases (together statement).mp member with inside | beside
    · exact rank_le_outcome inside
    · rw [← same]
      exact rank_le_outcome beside
  · refine (called_outcome first).imp_right fun ⟨statement, member, calls⟩ => ?_
    exact ⟨statement, (together statement).mpr (Or.inl member), calls⟩

/-- What applies in two surveys taken together leads to the join of their outcomes. -/
theorem outcome_eq_join
    (together : ∀ statement, statement ∈ survey.applying ↔
      statement ∈ first.applying ∨ statement ∈ second.applying) :
    survey.outcome = first.outcome.join second.outcome := by
  unfold Outcome.join
  split
  · rename_i lighter
    exact outcome_eq_of_lighter together lighter
  · rename_i notLighter
    split
    · rename_i heavier
      exact outcome_eq_of_lighter (fun statement => (together statement).trans or_comm) heavier
    · rename_i notHeavier
      -- Both decisions are the same, so the statements behind both stand behind the join.
      have same : second.outcome.decision = first.outcome.decision := Decision.eq_of_rank_eq
        (Nat.le_antisymm (Nat.le_of_not_gt notHeavier) (Nat.le_of_not_gt notLighter))
      have decision := decision_eq_of_same together same
      refine Outcome.eq_of_increasing (sids_outcome_increasing survey)
        (Text.sortedSet_increasing _) decision fun sid => ?_
      simp only [Text.mem_sortedSet, List.mem_append, mem_sids_outcome, decision, same, together,
        or_and_right, exists_or, and_or_left]

end Survey

namespace Policy

/-- The document of the statements of two documents in a row. -/
def Document.followedBy (first second : Document) : Document :=
  -- The first one also gives its version and its identifier.
  { first with statements := first.statements ++ second.statements }

/-- Documents in a row are decided by the join of what each decides, unless one cannot decide. -/
theorem Document.evaluate_followedBy (first second : Document) (request : Request) :
    (first.followedBy second).evaluate request = (do
      let outcome ← first.evaluate request
      let other ← second.evaluate request
      return outcome.join other) := by
  have appended : (first.followedBy second).survey request =
      Survey.of request (first.statements ++ second.statements) := rfl
  unfold evaluate
  rw [appended, Survey.of_append]
  unfold survey
  cases stopped : (Survey.of request first.statements).failure with
  | some failure => simp [stopped, Bind.bind, Except.bind]
  | none =>
    cases (Survey.of request second.statements).failure with
    | some failure => rfl
    | none => exact congrArg Except.ok (Survey.outcome_eq_join fun _ => List.mem_append)

/-- A list of statements into which others were inserted, which may have moved the old ones. -/
inductive Inserted (added : Statement → Prop) : List Statement → List Statement → Prop where
  /-- Nothing was inserted where there is nothing. -/
  | nil : Inserted added [] []
  /-- An old statement is still there, perhaps at another place. -/
  | keep {statement other : Statement} {before after : List Statement}
      (alike : statement.Alike other) (rest : Inserted added before after) :
      Inserted added (statement :: before) (other :: after)
  /-- A statement that was not there is one that was to be added. -/
  | insert {statement : Statement} {before after : List Statement}
      (fits : added statement) (rest : Inserted added before after) :
      Inserted added before (statement :: after)

namespace Inserted

variable {added : Statement → Prop} {before after : List Statement}

/-- Whatever a list says is still said after an insertion. -/
theorem saidIn (inserted : Inserted added before after) :
    ∀ statement ∈ before, statement.SaidIn after := by
  induction inserted with
  | nil => simp
  | keep alike _ ih =>
    intro statement member
    rcases List.mem_cons.mp member with rfl | behind
    · exact ⟨_, List.mem_cons_self, alike⟩
    · obtain ⟨other, there, same⟩ := ih statement behind
      exact ⟨other, List.mem_cons_of_mem _ there, same⟩
  | insert _ _ ih =>
    intro statement member
    obtain ⟨other, there, same⟩ := ih statement member
    exact ⟨other, List.mem_cons_of_mem _ there, same⟩

/-- Whatever a list says after an insertion was said before, or was added. -/
theorem saidIn_or_added (inserted : Inserted added before after) :
    ∀ statement ∈ after, statement.SaidIn before ∨ added statement := by
  induction inserted with
  | nil => simp
  | keep alike _ ih =>
    intro statement member
    rcases List.mem_cons.mp member with rfl | behind
    · exact Or.inl ⟨_, List.mem_cons_self, alike.symm⟩
    · refine (ih statement behind).imp_left fun ⟨other, there, same⟩ => ?_
      exact ⟨other, List.mem_cons_of_mem _ there, same⟩
  | insert fits _ ih =>
    intro statement member
    rcases List.mem_cons.mp member with rfl | behind
    · exact Or.inr fits
    · exact ih statement behind

variable {request : Request}

/-- A list that can be decided after an insertion could be decided before. -/
theorem failure_eq_none (inserted : Inserted added before after)
    (complete : (Survey.of request after).failure = none) :
    (Survey.of request before).failure = none :=
  Survey.failure_eq_none_of_saidIn inserted.saidIn complete

/-- What applies after an insertion applied before, or was added. -/
theorem applying_saidIn_or_added (inserted : Inserted added before after)
    (complete : (Survey.of request after).failure = none) :
    ∀ statement ∈ (Survey.of request after).applying,
      statement.SaidIn (Survey.of request before).applying ∨ added statement := by
  intro statement member
  obtain ⟨inside, applies⟩ := (Survey.mem_applying_iff complete).mp member
  refine (inserted.saidIn_or_added statement inside).imp_left fun ⟨other, there, alike⟩ => ?_
  exact ⟨other, (Survey.mem_applying_iff (inserted.failure_eq_none complete)).mpr
    ⟨there, (alike.applies_iff request).mp applies⟩, alike⟩

/-- Additions that the old outcome outweighs change nothing about it. -/
theorem outcome_eq (inserted : Inserted added before after)
    (complete : (Survey.of request after).failure = none)
    (outweighed : ∀ statement ∈ (Survey.of request after).applying, added statement →
      statement.effect.decision.rank < (Survey.of request before).outcome.decision.rank) :
    (Survey.of request after).outcome = (Survey.of request before).outcome :=
  Survey.outcome_eq_of_outweighed (Survey.saidIn_applying inserted.saidIn complete)
    fun statement member => (inserted.applying_saidIn_or_added complete statement member).imp_right
      (outweighed statement member)

/-- Denials that are inserted do not allow anything that was not allowed before. -/
theorem allow_of_denials (inserted : Inserted (·.effect = .deny) before after)
    (complete : (Survey.of request after).failure = none)
    (allowed : (Survey.of request after).outcome.decision = .allow) :
    (Survey.of request before).outcome.decision = .allow := by
  rw [← inserted.outcome_eq complete, allowed]
  -- No denial applies where the outcome is a permission, so no added statement does.
  intro statement member denies
  have bounded := Survey.rank_le_outcome member
  rw [denies, allowed] at bounded
  exact absurd bounded (by decide)

/-- Permissions that are inserted change nothing about an explicit denial. -/
theorem outcome_eq_of_permissions (inserted : Inserted (·.effect = .allow) before after)
    (complete : (Survey.of request after).failure = none)
    (denied : (Survey.of request before).outcome.decision = .explicitDeny) :
    (Survey.of request after).outcome = (Survey.of request before).outcome := by
  refine inserted.outcome_eq complete fun statement _ allows => ?_
  rw [allows, denied]
  decide

/-- Statements that are repeated change nothing at all. -/
theorem outcome_eq_of_copies (inserted : Inserted (·.SaidIn before) before after)
    (complete : (Survey.of request before).failure = none) :
    (Survey.of request after).failure = none ∧
      (Survey.of request after).outcome = (Survey.of request before).outcome := by
  have back : ∀ statement ∈ after, statement.SaidIn before :=
    fun statement member => or_self_iff.mp (inserted.saidIn_or_added statement member)
  have completeToo := Survey.failure_eq_none_of_saidIn back complete
  exact ⟨completeToo, Survey.outcome_eq_of_saidIn (Survey.saidIn_applying back complete)
    (Survey.saidIn_applying inserted.saidIn completeToo)⟩

end Inserted

/--
Evaluation takes documents in a row to the join of their outcomes, or to the first of their errors.

So denials that are inserted anywhere allow nothing new, permissions that are inserted anywhere
change nothing about an explicit denial, and statements that are repeated anywhere change nothing
at all, as long as everything can be decided.
-/
theorem Document.evaluate_composes (first second : Document) (request : Request) :
    (first.followedBy second).evaluate request = (do
      let outcome ← first.evaluate request
      let other ← second.evaluate request
      return outcome.join other) ∧
    ∀ larger : Document,
      (Inserted (·.effect = .deny) first.statements larger.statements →
        ∀ after, larger.evaluate request = .ok after →
          ∃ before, first.evaluate request = .ok before ∧
            (before.decision ≠ .allow → after.decision ≠ .allow)) ∧
      (Inserted (·.effect = .allow) first.statements larger.statements →
        ∀ after, larger.evaluate request = .ok after →
          ∃ before, first.evaluate request = .ok before ∧
            (before.decision = .explicitDeny → after = before)) ∧
      (Inserted (·.SaidIn first.statements) first.statements larger.statements →
        ∀ outcome, larger.evaluate request = .ok outcome ↔ first.evaluate request = .ok outcome) := by
  refine ⟨evaluate_followedBy first second request, fun larger => ⟨?_, ?_, ?_⟩⟩
  · intro inserted after evaluated
    obtain ⟨complete, rfl⟩ := evaluate_eq_ok_iff.mp evaluated
    exact ⟨_, evaluate_eq_ok_iff.mpr ⟨inserted.failure_eq_none complete, rfl⟩,
      mt (inserted.allow_of_denials complete)⟩
  · intro inserted after evaluated
    obtain ⟨complete, rfl⟩ := evaluate_eq_ok_iff.mp evaluated
    exact ⟨_, evaluate_eq_ok_iff.mpr ⟨inserted.failure_eq_none complete, rfl⟩,
      inserted.outcome_eq_of_permissions complete⟩
  · intro inserted outcome
    rw [evaluate_eq_ok_iff, evaluate_eq_ok_iff]
    constructor
    · rintro ⟨completeToo, rfl⟩
      have complete := inserted.failure_eq_none completeToo
      exact ⟨complete, (inserted.outcome_eq_of_copies complete).2⟩
    · rintro ⟨complete, rfl⟩
      obtain ⟨completeToo, same⟩ := inserted.outcome_eq_of_copies complete
      exact ⟨completeToo, same.symm⟩

/-- A document that allows reading. -/
def readersDocument : Document :=
  -- Nobody is denied anything by it.
  ⟨"2012-10-17", none, [⟨0, some "Read", .allow, .only ["s3:Get*"], .only ["*"], none, none⟩]⟩

/-- A document that denies everything about one bucket. -/
def keepersDocument : Document :=
  -- Nobody is allowed anything by it.
  ⟨"2012-10-17", none,
    [⟨0, some "Keep", .deny, .only ["s3:*"], .only ["arn:aws:s3:::kept/*"], none, none⟩]⟩

/-- A request to read from that bucket. -/
def keptRequest : Request :=
  -- Neither document names principals.
  ⟨"s3:GetObject", "arn:aws:s3:::kept/k", none, .empty⟩

/-- The denial holds behind a permission and twice, just as it does alone. -/
theorem evaluate_readers_keepers :
    (∃ before, readersDocument.evaluate keptRequest = .ok before ∧
        (before.decision ≠ .allow → Decision.explicitDeny ≠ .allow)) ∧
      (∃ before, keepersDocument.evaluate keptRequest = .ok before ∧
        (before.decision = .explicitDeny → ⟨.explicitDeny, ["Keep"]⟩ = before)) ∧
      (keepersDocument.followedBy keepersDocument).evaluate keptRequest =
        .ok ⟨.explicitDeny, ["Keep"]⟩ := by
  have kept : keepersDocument.evaluate keptRequest = .ok ⟨.explicitDeny, ["Keep"]⟩ :=
    eq_ok_of_toOption (by decide +kernel)
  have both : (readersDocument.followedBy keepersDocument).evaluate keptRequest =
      .ok ⟨.explicitDeny, ["Keep"]⟩ := eq_ok_of_toOption (by decide +kernel)
  have denial := ((Document.evaluate_composes readersDocument keepersDocument keptRequest).2
    (readersDocument.followedBy keepersDocument)).1 (.keep rfl (.insert rfl .nil)) _ both
  have permission := ((Document.evaluate_composes keepersDocument readersDocument keptRequest).2
    (readersDocument.followedBy keepersDocument)).2.1 (.insert rfl (.keep rfl .nil)) _ both
  have twice := ((Document.evaluate_composes keepersDocument keepersDocument keptRequest).2
    (keepersDocument.followedBy keepersDocument)).2.2
      (.keep rfl (.insert ⟨_, List.mem_cons_self, rfl⟩ .nil)) ⟨.explicitDeny, ["Keep"]⟩
  exact ⟨denial, permission, twice.mpr kept⟩

end Policy

end AccessPolicy
