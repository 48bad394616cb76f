import AccessPolicy.Proofs.Evaluation.PrincipalView
import AccessPolicy.Proofs.Policy.Acceptance
import AccessPolicy.Proofs.Principal

/-! Accounts as principals: a bare number is the root user, and as an entry everyone in it. -/

namespace AccessPolicy

open Policy (Statement Document)

/-- An entry stays as it is, or is shortened from the name of a root user to its account. -/
inductive PrincipalBlock.Shortened (account : String) : String → String → Prop where
  | kept (entry : String) : Shortened account entry entry
  | root : Shortened account (Arn.accountRoot account "aws") account

namespace PrincipalBlock

variable {account : String} (number : Arn.IsAccountNumber account)
include number

/-- A shortened entry matches every principal that the longer one does. -/
theorem Shortened.acceptsAws {entry other candidate : String}
    (shortened : Shortened account entry other)
    (accepted : acceptsAws entry candidate = true) : acceptsAws other candidate = true := by
  cases shortened with
  | kept => exact accepted
  | root => exact acceptsAws_account_of_root number accepted

/-- The wildcard is not the name of a root user, and so stays among the entries. -/
theorem wildcard_mem_of_shortened {entries others : List String}
    (each : List.Forall₂ (Shortened account) entries others)
    (everyone : Arn.wildcard ∈ entries) : Arn.wildcard ∈ others := by
  obtain ⟨other, inside, shortened⟩ := exists_of_mem_left each everyone
  have accepted : PrincipalBlock.acceptsAws other "" = true :=
    shortened.acceptsAws number (if_pos rfl)
  -- Only the wildcard matches the empty text.
  have same := eq_wildcard_of_acceptsAws rfl rfl accepted
  exact same ▸ inside

/-- Shortening entries for accounts takes no principal out of a block. -/
theorem accepts_of_shortened {lists : PrincipalLists} {others : List String}
    (each : List.Forall₂ (Shortened account) lists.aws others) {principal : Principal}
    (accepted : (listed lists).accepts principal = true) :
    (listed (lists.set .aws others)).accepts principal = true := by
  rw [accepts_iff] at accepted ⊢
  rcases accepted with everyone | ⟨pattern, inside, matched⟩
  · exact Or.inl (wildcard_mem_of_shortened number each everyone)
  · obtain ⟨kind, candidate⟩ := principal
    -- Only principals of accounts are looked up in the changed list.
    cases kind with
    | aws =>
      obtain ⟨other, there, shortened⟩ := exists_of_mem_left each inside
      exact Or.inr ⟨other, there, shortened.acceptsAws number matched⟩
    | canonicalUser | federated | service => exact Or.inr ⟨pattern, inside, matched⟩

/-- A block accepts an account number where it accepts the name of the root user. -/
theorem accepts_account_eq (block : PrincipalBlock) :
    block.accepts ⟨.aws, account⟩ = block.accepts ⟨.aws, Arn.accountRoot account "aws"⟩ := by
  have same (pattern : String) :
      acceptsAws pattern account = acceptsAws pattern (Arn.accountRoot account "aws") :=
    acceptsAws_congr (fullName_account_eq number) pattern
  cases block with
  | everyone => rfl
  | listed lists => simp only [accepts, acceptsEntry, same]

end PrincipalBlock

/-- What is no name of an account is accepted by the wildcards, and by nothing else. -/
theorem PrincipalBlock.accepts_nameless_iff {block : PrincipalBlock} {candidate : String}
    (unshaped : ¬ Policy.IsShapedLikeArn candidate) (unnumbered : ¬ Arn.IsAccountNumber candidate) :
    block.accepts ⟨.aws, candidate⟩ = true ↔
      block = .everyone ∨ Arn.wildcard ∈ block.lists.aws := by
  rw [← Policy.hasShape_iff, Bool.not_eq_true] at unshaped
  rw [← Arn.isAccountId_iff, Bool.not_eq_true] at unnumbered
  rw [accepts_iff]
  cases block with
  | everyone => simp [Names]
  | listed all =>
    simp only [Names, lists, reduceCtorEq, false_or]
    constructor
    · intro named
      rcases named with everyone | ⟨pattern, inside, matched⟩
      · exact everyone
      · exact eq_wildcard_of_acceptsAws unshaped unnumbered matched ▸ inside
    · exact Or.inl

/-- A statement admits an account number where it admits the name of the root user. -/
theorem Policy.Statement.admitsPrincipal_account_eq {account : String}
    (number : Arn.IsAccountNumber account) (statement : Statement) :
    statement.admitsPrincipal (some ⟨.aws, account⟩) =
      statement.admitsPrincipal (some ⟨.aws, Arn.accountRoot account "aws"⟩) := by
  unfold admitsPrincipal coversPrincipal
  cases statement.principal with
  | none => rfl
  | some selection =>
    -- Leaving out a block turns both answers round.
    cases selection <;> simp only [Selection.covers, PrincipalBlock.accepts_account_eq number]

/--
A bare account number and the name of its root user are the same principal.

Requests of the two are decided alike, by the same outcome or the same error.
As an entry the number covers the whole account, so that putting it in the place of the name of the
root user takes nobody out of a block.
What is neither a resource name nor an account number needs one of the wildcards.
-/
theorem Policy.Document.evaluate_account {account : String}
    (number : Arn.IsAccountNumber account) :
    (∀ (document : Document) (action resource : String) (context : Context),
        document.evaluate ⟨action, resource, some ⟨.aws, account⟩, context⟩ =
          document.evaluate
            ⟨action, resource, some ⟨.aws, Arn.accountRoot account "aws"⟩, context⟩) ∧
      (∀ (lists : PrincipalLists) (others : List String),
        List.Forall₂ (PrincipalBlock.Shortened account) lists.aws others →
          ∀ principal, (PrincipalBlock.listed lists).accepts principal = true →
            (PrincipalBlock.listed (lists.set .aws others)).accepts principal = true) ∧
      (∀ candidate, PrincipalBlock.acceptsEntry .aws account candidate = true ↔
        candidate = account ∨
          ∃ arn : Arn, arn.Divided ∧ arn.text = candidate ∧ arn.account = account) ∧
      ∀ (block : PrincipalBlock) (candidate : String), ¬ IsShapedLikeArn candidate →
        ¬ Arn.IsAccountNumber candidate →
          (block.accepts ⟨.aws, candidate⟩ = true ↔
            block = .everyone ∨ Arn.wildcard ∈ block.lists.aws) := by
  refine ⟨fun document action resource context => ?_, ?_, ?_, ?_⟩
  · refine evaluate_eq_of_answersLike (List.forall₂_same.mpr fun statement _ => ?_)
    have admits := statement.admitsPrincipal_account_eq number
    exact Statement.answersLike_of_admits rfl admits action resource context
  · intro lists others each principal accepted
    exact PrincipalBlock.accepts_of_shortened number each accepted
  · intro candidate
    exact PrincipalBlock.acceptsAws_account_iff number
  · intro block candidate unshaped unnumbered
    exact PrincipalBlock.accepts_nameless_iff unshaped unnumbered

/-- A policy that admits the users of all accounts, and denies to all but one root user. -/
def Policy.rootedDocument : Document :=
  -- The first list holds a pattern with wildcards, the second one the full name.
  ⟨"2012-10-17", none,
    [⟨0, some "Read", .allow, .only ["s3:Get*"], .only ["*"],
        some (.only (.listed ⟨["arn:aws:iam::*:root"], [], [], []⟩)), none⟩,
      ⟨1, some "Others", .deny, .only ["s3:*"], .only ["*"],
        some (.allBut (.listed ⟨["arn:aws:iam::123456789012:root"], [], [], []⟩)), none⟩]⟩

/-- The account reads as its root user does, and its number names its users as well. -/
theorem Policy.evaluate_rooted :
    rootedDocument.evaluate ⟨"s3:GetObject", "arn:aws:s3:::b/k",
        some ⟨.aws, "arn:aws:iam::123456789012:root"⟩, .empty⟩ = .ok ⟨.allow, ["Read"]⟩ ∧
      rootedDocument.evaluate ⟨"s3:GetObject", "arn:aws:s3:::b/k",
        some ⟨.aws, "123456789012"⟩, .empty⟩ = .ok ⟨.allow, ["Read"]⟩ ∧
      (PrincipalBlock.listed ⟨["123456789012", "*"], [], [], []⟩).accepts
        ⟨.aws, "arn:aws:iam::123456789012:root"⟩ = true ∧
      PrincipalBlock.acceptsEntry .aws "123456789012" "arn:aws:iam::123456789012:user/a" = true ∧
      (PrincipalBlock.listed ⟨["123456789012"], [], [], []⟩).accepts ⟨.aws, "reader"⟩ = false := by
  have number : Arn.IsAccountNumber "123456789012" := Arn.isAccountId_iff.mp (by decide +kernel)
  obtain ⟨alike, enlarged, covered, nameless⟩ := Document.evaluate_account number
  have decided : rootedDocument.evaluate ⟨"s3:GetObject", "arn:aws:s3:::b/k",
      some ⟨.aws, "arn:aws:iam::123456789012:root"⟩, .empty⟩ = .ok ⟨.allow, ["Read"]⟩ :=
    eq_ok_of_toOption (by decide +kernel)
  have unshaped : ¬ IsShapedLikeArn "reader" := by
    rw [← hasShape_iff]
    decide
  have unnumbered : ¬ Arn.IsAccountNumber "reader" := fun number =>
    absurd number.twelve (by decide)
  have refused := nameless (.listed ⟨["123456789012"], [], [], []⟩) "reader" unshaped unnumbered
  refine ⟨decided, ?_, ?_, ?_, ?_⟩
  · exact (alike rootedDocument "s3:GetObject" "arn:aws:s3:::b/k" .empty).trans decided
  · exact enlarged ⟨["arn:aws:iam::123456789012:root", "*"], [], [], []⟩ ["123456789012", "*"]
      (.cons .root (.cons (.kept "*") .nil)) _ (by decide +kernel)
  · exact (covered _).mpr (Or.inr ⟨⟨"aws", "iam", "", "123456789012", "user/a"⟩,
      ⟨by decide, by decide, by decide, by decide⟩, by decide +kernel, rfl⟩)
  · rw [Bool.eq_false_iff, Ne, refused]
    decide

end AccessPolicy
