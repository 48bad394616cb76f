import AccessPolicy.Proofs.Evaluation.Decision

/-!
The single identifier of an outcome, and the statements that are behind its decision.

An outcome has identifiers and not the statements that these come from. A statement without an
identifier leaves no trace in it, and statements of one identifier leave a single one. So this can
stand for several statements, unless all of them have identifiers of their own.
-/

namespace AccessPolicy

open Policy (Statement Document)

/-- An outcome has a single identifier exactly where this is the only one in it. -/
theorem Outcome.sid?_eq_some_iff {outcome : Outcome} {sid : String} :
    outcome.sid? = some sid ↔ outcome.sids = [sid] := by
  unfold sid?
  split
  · rename_i first single
    simp [single]
  · rename_i several
    exact iff_of_false (by simp) (several sid)

/-- The statements of a document that apply to a request and call for a decision, in their order. -/
def Policy.Document.behind (document : Document) (request : Request) (decision : Decision) :
    List Statement :=
  -- Statements of the other effect do not count, even if they apply.
  document.statements.filter fun statement =>
    decide (statement.Applies request ∧ statement.effect.decision = decision)

/-- A text is the identifier of the only statement in a list. -/
def IsSoleSid (sid : String) (statements : List Statement) : Prop :=
  -- The empty text identifies nothing.
  sid ≠ "" ∧ ∃ statement, statements = [statement] ∧ statement.sid = some sid

/-- A text is the identifier of some statement in a list, and no other statement has another one. -/
def IsCommonSid (sid : String) (statements : List Statement) : Prop :=
  -- Statements without an identifier do not count.
  sid ≠ "" ∧ (∃ statement ∈ statements, statement.sid = some sid) ∧
    ∀ statement ∈ statements, ∀ other, statement.sid = some other → other = sid ∨ other = ""

section Lists

variable {sid : String} {statements : List Statement}

/-- The identifier of the only statement is a common one in a list of one statement. -/
theorem isSoleSid_iff : IsSoleSid sid statements ↔
    IsCommonSid sid statements ∧ statements.length = 1 := by
  constructor
  · rintro ⟨filled, statement, rfl, named⟩
    refine ⟨⟨filled, ⟨statement, by simp, named⟩, ?_⟩, rfl⟩
    intro single inside other same
    rw [List.mem_singleton.mp inside, named] at same
    exact Or.inl (Option.some.inj same).symm
  · rintro ⟨⟨filled, ⟨statement, inside, named⟩, -⟩, one⟩
    obtain ⟨single, rfl⟩ := List.length_eq_one_iff.mp one
    exact ⟨filled, single, rfl, List.mem_singleton.mp inside ▸ named⟩

/-- A list in which some statement has the common identifier has that statement. -/
theorem IsCommonSid.length_pos (common : IsCommonSid sid statements) : 0 < statements.length := by
  obtain ⟨-, ⟨statement, inside, -⟩, -⟩ := common
  exact List.length_pos_of_mem inside

/-- Where all statements have identifiers, and different ones, a common one has one statement. -/
theorem IsCommonSid.length_eq_one (common : IsCommonSid sid statements)
    (named : ∀ statement ∈ statements, filled? statement.sid ≠ none)
    (distinct : (statements.map Statement.sid).Nodup) : statements.length = 1 := by
  have positive := common.length_pos
  obtain ⟨filled, -, others⟩ := common
  -- Every statement has the common identifier, so there is room for one statement only.
  have same : ∀ given ∈ statements.map Statement.sid, given = some sid := by
    intro given there
    obtain ⟨other, member, rfl⟩ := List.mem_map.mp there
    obtain ⟨text, kept⟩ := Option.ne_none_iff_exists'.mp (named other member)
    obtain ⟨has, notEmpty⟩ := filled?_eq_some_iff.mp kept
    rcases others other member text has with rfl | empty
    · exact has
    · exact absurd empty notEmpty
  have repeated := List.eq_replicate_of_mem same
  rw [repeated, List.nodup_replicate, List.length_map] at distinct
  exact Nat.le_antisymm distinct positive

end Lists

section Outcomes

variable {document : Document} {request : Request} {outcome : Outcome} {sid : String}

/-- The statements behind a decision are those of the document that apply and call for it. -/
theorem mem_behind_iff {decision : Decision} {statement : Statement} :
    statement ∈ document.behind request decision ↔
      statement ∈ document.statements ∧ statement.Applies request ∧
        statement.effect.decision = decision := by
  simp [Policy.Document.behind]

/-- An outcome has a single identifier exactly where it is common to all behind the decision. -/
theorem sid?_eq_some_iff_isCommonSid (decided : document.evaluate request = .ok outcome) :
    outcome.sid? = some sid ↔ IsCommonSid sid (document.behind request outcome.decision) := by
  obtain ⟨-, -, -, -, -, listed, increasing⟩ := Policy.Document.evaluate_decides decided
  -- Both sides say that the text is an identifier of the outcome, and that there is no other.
  have members (other : String) : other ∈ outcome.sids ↔
      other ≠ "" ∧ ∃ statement ∈ document.behind request outcome.decision,
        statement.sid = some other := by
    simp only [listed, mem_behind_iff, and_assoc]
  rw [Outcome.sid?_eq_some_iff, Text.eq_singleton_iff_of_increasing increasing, members]
  unfold IsCommonSid
  rw [and_assoc]
  refine and_congr_right fun _ => and_congr_right fun _ => ?_
  constructor
  · intro single statement inside other has
    by_cases empty : other = ""
    · exact Or.inr empty
    · exact Or.inl (single other ((members other).mpr ⟨empty, statement, inside, has⟩))
  · intro common other there
    obtain ⟨filled, statement, inside, has⟩ := (members other).mp there
    exact (common statement inside other has).resolve_right filled

end Outcomes

/--
The single identifier of an outcome is the one that all statements behind its decision share.

Where there is just one such statement, it is the identifier of that one. It can stand for several:
some of them have this identifier then, and the others have none. Nothing else can go wrong, and not
even this can where every statement behind the decision has an identifier of its own.
-/
theorem Policy.Document.evaluate_single_sid {document : Document} {request : Request}
    {outcome : Outcome} (decided : document.evaluate request = .ok outcome) (sid : String) :
    (outcome.sid? = some sid ↔ IsCommonSid sid (document.behind request outcome.decision)) ∧
    (IsSoleSid sid (document.behind request outcome.decision) → outcome.sid? = some sid) ∧
    (outcome.sid? = some sid ∧ ¬ IsSoleSid sid (document.behind request outcome.decision) ↔
      IsCommonSid sid (document.behind request outcome.decision) ∧
        2 ≤ (document.behind request outcome.decision).length) ∧
    ((∀ statement ∈ document.behind request outcome.decision, filled? statement.sid ≠ none) →
      ((document.behind request outcome.decision).map Statement.sid).Nodup →
      (outcome.sid? = some sid ↔ IsSoleSid sid (document.behind request outcome.decision))) := by
  rw [sid?_eq_some_iff_isCommonSid decided]
  generalize document.behind request outcome.decision = statements
  refine ⟨Iff.rfl, fun sole => (isSoleSid_iff.mp sole).1, ?_, fun named distinct => ?_⟩
  · constructor
    · rintro ⟨common, several⟩
      have positive := IsCommonSid.length_pos common
      have notOne : statements.length ≠ 1 :=
        fun one => several (isSoleSid_iff.mpr ⟨common, one⟩)
      exact ⟨common, by omega⟩
    · rintro ⟨common, several⟩
      refine ⟨common, fun sole => ?_⟩
      have one := (isSoleSid_iff.mp sole).2
      omega
  · rw [isSoleSid_iff]
    refine ⟨fun common => ⟨common, ?_⟩, And.left⟩
    exact IsCommonSid.length_eq_one common named distinct

/-- A policy that grants reading by a statement with an identifier, and objects by one without. -/
def Policy.jointDocument : Document :=
  -- Both of them grant reading objects.
  ⟨"2012-10-17", none,
    [⟨0, some "Read", .allow, .only ["s3:Get*"], .only ["*"], none, none⟩,
      ⟨1, none, .allow, .only ["s3:*Object"], .only ["*"], none, none⟩]⟩

/-- A request for an action on an object, by nobody in particular. -/
def Policy.jointRequest (action : String) : Request :=
  -- Nothing is known about the circumstances.
  ⟨action, "arn:aws:s3:::inside/key", none, .empty⟩

/-- Reading an access list is granted by the first statement alone, and its identifier says so. -/
theorem Policy.evaluate_single_sid_alone :
    jointDocument.evaluate (jointRequest "s3:GetBucketAcl") = .ok ⟨.allow, ["Read"]⟩ ∧
      IsSoleSid "Read" (jointDocument.behind (jointRequest "s3:GetBucketAcl") .allow) := by
  have decided : jointDocument.evaluate (jointRequest "s3:GetBucketAcl") =
      .ok ⟨.allow, ["Read"]⟩ :=
    eq_ok_of_toOption (by decide +kernel)
  have first : jointDocument.behind (jointRequest "s3:GetBucketAcl") .allow =
      jointDocument.statements.take 1 := by
    decide +kernel
  obtain ⟨-, -, -, agrees⟩ := Document.evaluate_single_sid decided "Read"
  refine ⟨decided, (agrees ?_ ?_).mp rfl⟩
  · rw [first]
    exact List.forall_mem_singleton.mpr (by decide)
  · rw [first]
    exact List.pairwise_singleton _ _

/-- Reading an object is granted by both statements, and the outcome has the identifier of one. -/
theorem Policy.evaluate_single_sid_joint :
    ∃ outcome, jointDocument.evaluate (jointRequest "s3:GetObject") = .ok outcome ∧
      jointDocument.behind (jointRequest "s3:GetObject") outcome.decision =
        jointDocument.statements ∧
      outcome.sid? = some "Read" ∧ ¬ IsSoleSid "Read" jointDocument.statements := by
  have decided : jointDocument.evaluate (jointRequest "s3:GetObject") = .ok ⟨.allow, ["Read"]⟩ :=
    eq_ok_of_toOption (by decide +kernel)
  refine ⟨_, decided, by decide +kernel, rfl, fun sole => ?_⟩
  -- There are two statements, so none of them is the only one.
  exact absurd (isSoleSid_iff.mp sole).2 (by decide)

end AccessPolicy
