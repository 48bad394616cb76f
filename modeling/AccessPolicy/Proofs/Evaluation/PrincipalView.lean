import AccessPolicy.Proofs.Evaluation.Stepwise
import AccessPolicy.Proofs.Policy.Restating

/-! What evaluation sees of principals: nothing without one, and else what names its kind. -/

namespace AccessPolicy

open Policy (Statement Document Selection)

/-- Two blocks look the same to principals of a kind. -/
inductive PrincipalBlock.AgreesFor (kind : PrincipalKind) :
    PrincipalBlock → PrincipalBlock → Prop where
  | everyone : AgreesFor kind .everyone .everyone
  /-- The wildcard among the accounts matters to all kinds, other lists only to their own. -/
  | listed {lists others : PrincipalLists}
      (wildcard : Arn.wildcard ∈ lists.aws ↔ Arn.wildcard ∈ others.aws)
      (same : lists.of kind = others.of kind) : AgreesFor kind (.listed lists) (.listed others)

/-- Blocks that look the same to a kind of principals accept the same ones of that kind. -/
theorem PrincipalBlock.AgreesFor.accepts_eq {block other : PrincipalBlock} {principal : Principal}
    (agrees : block.AgreesFor principal.kind other) :
    block.accepts principal = other.accepts principal := by
  rw [Bool.eq_iff_iff, accepts_iff, accepts_iff]
  cases agrees with
  | everyone => rfl
  | listed wildcard same =>
    -- An entry of the list of the kind is an entry of the other block's list.
    simp only [Names, wildcard, same]

namespace Policy.Statement

/-- The statement without its principal element. -/
def withoutPrincipal (statement : Statement) : Statement :=
  -- All else stays as it is.
  { statement with principal := none }

/-- Two statements are the same but for lists that principals of a kind do not look at. -/
structure AgreesFor (kind : PrincipalKind) (statement other : Statement) : Prop where
  rest : statement.withoutPrincipal = other.withoutPrincipal
  principal : Option.Rel (Selection.Restates (PrincipalBlock.AgreesFor kind)) statement.principal
    other.principal

variable {statement other : Statement}

/-- Whether a principal is admitted does not depend on the lists of other kinds. -/
theorem AgreesFor.admitsPrincipal_eq {principal : Principal}
    (agrees : statement.AgreesFor principal.kind other) :
    statement.admitsPrincipal (some principal) = other.admitsPrincipal (some principal) := by
  have related := agrees.principal
  unfold admitsPrincipal coversPrincipal
  -- Both statements have the element, meant in the same way, or neither has.
  cases chosen : statement.principal with
  | none =>
    rw [chosen, rel_none_left_iff] at related
    rw [related]
  | some selection =>
    rw [chosen, rel_some_left_iff] at related
    obtain ⟨selectionToo, chosenToo, restates⟩ := related
    rw [chosenToo]
    exact restates.covers_eq fun _ _ alike => alike.accepts_eq

/-- Principals that two otherwise equal statements admit alike are answered alike by both. -/
theorem answersLike_of_admits (rest : statement.withoutPrincipal = other.withoutPrincipal)
    {principal again : Option Principal}
    (admits : statement.admitsPrincipal principal = other.admitsPrincipal again)
    (action resource : String) (context : Context) :
    Statement.AnswersLike ⟨action, resource, principal, context⟩
      ⟨action, resource, again, context⟩ statement other := by
  have kept {α : Type} (read : Statement → α) :
      read statement.withoutPrincipal = read other.withoutPrincipal := congrArg read rest
  have covers : statement.coversAction action = other.coversAction action :=
    kept (coversAction · action)
  have coversToo : statement.coversResource resource = other.coversResource resource :=
    kept (coversResource · resource)
  have condition : statement.condition = other.condition := kept Statement.condition
  -- The principal has a say in whether the statement is about the request, and nowhere else.
  have about : statement.concerns ⟨action, resource, principal, context⟩ =
      other.concerns ⟨action, resource, again, context⟩ := by
    simp only [concerns, covers, coversToo, admits]
  have answer : statement.applies ⟨action, resource, principal, context⟩ =
      other.applies ⟨action, resource, again, context⟩ := by
    rw [applies, applies, about, condition]
  exact ⟨kept Statement.index, kept Statement.sid, kept Statement.effect, answer⟩

end Policy.Statement

/--
Principal elements count only for requests with a principal, and there only for its kind.

Without a principal, documents that differ in principal elements alone lead to the same outcome or
error. With one, so do documents whose elements are there and meant in the same way, if they agree
about the wildcards and the list of its kind, whatever their other lists hold.
-/
theorem Policy.Document.evaluate_eq_of_principals (first second : Document)
    (action resource : String) (context : Context) :
    (first.statements.map (·.withoutPrincipal) = second.statements.map (·.withoutPrincipal) →
      first.evaluate ⟨action, resource, none, context⟩ =
        second.evaluate ⟨action, resource, none, context⟩) ∧
    ∀ principal : Principal,
      List.Forall₂ (Statement.AgreesFor principal.kind) first.statements second.statements →
        first.evaluate ⟨action, resource, some principal, context⟩ =
          second.evaluate ⟨action, resource, some principal, context⟩ := by
  constructor
  · intro rest
    have all := forall₂_map_eq_iff.mpr rest
    refine evaluate_eq_of_answersLike (all.imp fun statement other same => ?_)
    -- Every statement admits a request that names no principal.
    have admits : statement.admitsPrincipal none = other.admitsPrincipal none := rfl
    exact Statement.answersLike_of_admits same admits action resource context
  · intro principal agree
    refine evaluate_eq_of_answersLike (agree.imp fun statement other agrees => ?_)
    have admits := agrees.admitsPrincipal_eq
    exact Statement.answersLike_of_admits agrees.rest admits action resource context

/-- A policy that admits an account and a service, and denies to all but one user. -/
def Policy.servedDocument : Document :=
  -- The denial leaves out a user, an identity provider and nobody else.
  ⟨"2012-10-17", none,
    [⟨0, some "Read", .allow, .only ["s3:Get*"], .only ["*"],
        some (.only (.listed ⟨["123456789012"], [], [], ["lambda.amazonaws.com"]⟩)), none⟩,
      ⟨1, some "Others", .deny, .only ["s3:*"], .only ["*"],
        some (.allBut (.listed
          ⟨["arn:aws:iam::123456789012:user/reader"], [], ["idp.example.com"], []⟩)), none⟩]⟩

/-- The policy with other services and identity providers. -/
def Policy.reservedDocument : Document :=
  -- The lists of accounts are the same.
  ⟨"2012-10-17", none,
    [⟨0, some "Read", .allow, .only ["s3:Get*"], .only ["*"],
        some (.only (.listed ⟨["123456789012"], ["9a7b"], [], []⟩)), none⟩,
      ⟨1, some "Others", .deny, .only ["s3:*"], .only ["*"],
        some (.allBut (.listed
          ⟨["arn:aws:iam::123456789012:user/reader"], [], [], ["ec2.amazonaws.com"]⟩)), none⟩]⟩

/-- The two policies are the same to a user of the account, and where nobody is named. -/
theorem Policy.evaluate_reserved :
    servedDocument.evaluate ⟨"s3:GetObject", "arn:aws:s3:::b/k", none, .empty⟩ =
        reservedDocument.evaluate ⟨"s3:GetObject", "arn:aws:s3:::b/k", none, .empty⟩ ∧
      servedDocument.evaluate ⟨"s3:GetObject", "arn:aws:s3:::b/k",
          some ⟨.aws, "arn:aws:iam::123456789012:user/reader"⟩, .empty⟩ =
        reservedDocument.evaluate ⟨"s3:GetObject", "arn:aws:s3:::b/k",
          some ⟨.aws, "arn:aws:iam::123456789012:user/reader"⟩, .empty⟩ ∧
      reservedDocument.evaluate ⟨"s3:GetObject", "arn:aws:s3:::b/k",
          some ⟨.aws, "arn:aws:iam::123456789012:user/reader"⟩, .empty⟩ =
        .ok ⟨.allow, ["Read"]⟩ := by
  have alike := Document.evaluate_eq_of_principals servedDocument reservedDocument "s3:GetObject"
    "arn:aws:s3:::b/k" .empty
  have agree : List.Forall₂ (Statement.AgreesFor .aws) servedDocument.statements
      reservedDocument.statements :=
    .cons ⟨rfl, .some (.only (.listed (by decide) rfl))⟩
      (.cons ⟨rfl, .some (.allBut (.listed (by decide) rfl))⟩ .nil)
  exact ⟨alike.1 rfl, alike.2 ⟨.aws, "arn:aws:iam::123456789012:user/reader"⟩ agree,
    eq_ok_of_toOption (by decide +kernel)⟩

end AccessPolicy
