import AccessPolicy.Proofs.Evaluation.Decision
import AccessPolicy.Proofs.Policy.StatementReader

/-! Statements that say the same at different places lead to the same outcomes. -/

namespace AccessPolicy

namespace Policy.Statement

variable {statement other : Statement}

/-- Two statements say the same, wherever they stand. -/
def Alike (statement other : Statement) : Prop :=
  -- At one and the same place no difference is left.
  statement.placedAt 0 = other.placedAt 0

/-- Whether statements say the same can be computed. -/
instance (statement other : Statement) : Decidable (statement.Alike other) :=
  inferInstanceAs (Decidable (_ = _))

/-- A statement says the same as itself. -/
theorem Alike.refl (statement : Statement) : statement.Alike statement := rfl

/-- Saying the same is mutual. -/
theorem Alike.symm (alike : statement.Alike other) : other.Alike statement := Eq.symm alike

/-- Whatever is read off both at one and the same place is equal. -/
theorem Alike.congr {α : Type} (alike : statement.Alike other) (read : Statement → α) :
    read (statement.placedAt 0) = read (other.placedAt 0) := congrArg read alike

/-- Statements that say the same have the same effect. -/
theorem Alike.effect (alike : statement.Alike other) : statement.effect = other.effect :=
  alike.congr Statement.effect

/-- Statements that say the same have the same identifier. -/
theorem Alike.sid (alike : statement.Alike other) : statement.sid = other.sid :=
  alike.congr Statement.sid

/-- Statements that say the same are decided in the same way. -/
theorem Alike.applies_eq (alike : statement.Alike other) (request : Request) :
    statement.applies request = other.applies request :=
  -- Applying never asks for the place.
  alike.congr (Statement.applies · request)

/-- Statements that say the same apply to the same requests. -/
theorem Alike.applies_iff (alike : statement.Alike other) (request : Request) :
    statement.Applies request ↔ other.Applies request := by
  rw [← applies_eq_true_iff, ← applies_eq_true_iff, alike.applies_eq]

/-- Some statement of a list says the same. -/
def SaidIn (statement : Statement) (statements : List Statement) : Prop :=
  -- It may stand at any place there.
  ∃ other ∈ statements, statement.Alike other

end Policy.Statement

namespace Survey

open Policy (Statement Effect)

variable {request : Request}

/-- Where every statement of a list is said in a decidable one, the list is decidable. -/
theorem failure_eq_none_of_saidIn {first second : List Statement}
    (said : ∀ statement ∈ first, statement.SaidIn second)
    (complete : (of request second).failure = none) : (of request first).failure = none := by
  refine failure_eq_none_iff.mpr fun statement member => ?_
  obtain ⟨other, there, alike⟩ := said statement member
  rw [alike.applies_eq]
  exact failure_eq_none_iff.mp complete other there

/-- What applies in a list is also said by what applies in another that says all of the list. -/
theorem saidIn_applying {first second : List Statement}
    (said : ∀ statement ∈ first, statement.SaidIn second)
    (complete : (of request second).failure = none) :
    ∀ statement ∈ (of request first).applying, statement.SaidIn (of request second).applying := by
  intro statement member
  obtain ⟨inside, applies⟩ :=
    (mem_applying_iff (failure_eq_none_of_saidIn said complete)).mp member
  obtain ⟨other, there, alike⟩ := said statement inside
  exact ⟨other, (mem_applying_iff complete).mpr ⟨there, (alike.applies_iff request).mp applies⟩,
    alike⟩

/-- A survey that says what another does, and beyond it only what is outweighed, decides alike. -/
theorem outcome_eq_of_outweighed {survey part : Survey}
    (said : ∀ statement ∈ part.applying, statement.SaidIn survey.applying)
    (beyond : ∀ statement ∈ survey.applying, statement.SaidIn part.applying ∨
      statement.effect.decision.rank < part.outcome.decision.rank) :
    survey.outcome = part.outcome := by
  have decision : survey.outcome.decision = part.outcome.decision := by
    apply decision_eq_of_weightiest
    · intro statement member
      rcases beyond statement member with ⟨other, inside, alike⟩ | outweighed
      · rw [alike.effect]
        exact rank_le_outcome inside
      · exact Nat.le_of_lt outweighed
    · refine (called_outcome part).imp_right fun ⟨statement, member, calls⟩ => ?_
      obtain ⟨other, there, alike⟩ := said statement member
      exact ⟨other, there, by rw [← alike.effect, calls]⟩
  refine Outcome.eq_of_increasing (sids_outcome_increasing survey) (sids_outcome_increasing part)
    decision fun sid => ?_
  rw [mem_sids_outcome, mem_sids_outcome, decision]
  constructor
  · rintro ⟨filled, statement, member, calls, named⟩
    rcases beyond statement member with ⟨other, inside, alike⟩ | outweighed
    · exact ⟨filled, other, inside, by rw [← alike.effect, calls], by rw [← alike.sid, named]⟩
    · -- An outweighed statement does not call for the decision.
      rw [calls] at outweighed
      exact absurd outweighed (Nat.lt_irrefl _)
  · rintro ⟨filled, statement, member, calls, named⟩
    obtain ⟨other, there, alike⟩ := said statement member
    exact ⟨filled, other, there, by rw [← alike.effect, calls], by rw [← alike.sid, named]⟩

/-- Surveys whose applying statements say the same lead to the same outcome. -/
theorem outcome_eq_of_saidIn {first second : Survey}
    (forth : ∀ statement ∈ first.applying, statement.SaidIn second.applying)
    (back : ∀ statement ∈ second.applying, statement.SaidIn first.applying) :
    first.outcome = second.outcome :=
  outcome_eq_of_outweighed back fun statement member => Or.inl (forth statement member)

end Survey

end AccessPolicy
