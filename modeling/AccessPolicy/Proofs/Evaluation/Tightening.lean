import AccessPolicy.Proofs.Evaluation.Decision
import AccessPolicy.Proofs.Paired

/-! Tightened policies: wider denials and narrower permissions grant nothing new. -/

namespace AccessPolicy

/-- Whatever a block lists is listed in another as well, kind by kind. -/
inductive PrincipalBlock.ExtendedTo : PrincipalBlock → PrincipalBlock → Prop where
  /-- All principals are all that there are. -/
  | everyone : ExtendedTo .everyone .everyone
  /-- No principal is taken out of a list. -/
  | listed {lists others : PrincipalLists} (each : ∀ kind, lists.of kind ⊆ others.of kind) :
      ExtendedTo (.listed lists) (.listed others)

/-- A longer block names the principals that the shorter one does. -/
theorem PrincipalBlock.ExtendedTo.names {block other : PrincipalBlock}
    (extended : block.ExtendedTo other) {principal : Principal}
    (named : block.Names principal) : other.Names principal := by
  cases extended with
  | everyone => trivial
  | listed each =>
    -- The wildcard and the entry of the principal's kind both stay where they are.
    rcases named with everyone | ⟨pattern, inside, accepted⟩
    · exact Or.inl (each .aws everyone)
    · exact Or.inr ⟨pattern, each principal.kind inside, accepted⟩

namespace Policy

/-- A selection covers more: it names more, or it leaves less out. -/
inductive Selection.WidenedTo {α : Type} (more : α → α → Prop) :
    Selection α → Selection α → Prop where
  | only {named others : α} (added : more named others) :
      WidenedTo more (.only named) (.only others)
  | allBut {named others : α} (removed : more others named) :
      WidenedTo more (.allBut named) (.allBut others)

/-- A wider selection admits what the narrower one does, if longer lists fit where shorter do. -/
theorem Selection.WidenedTo.admits {α : Type} {more : α → α → Prop} {selection other : Selection α}
    (widened : selection.WidenedTo more other) {fits : α → Prop}
    (grows : ∀ named others, more named others → fits named → fits others)
    (admitted : selection.Admits fits) : other.Admits fits := by
  cases widened with
  | only added => exact grows _ _ added admitted
  | allBut removed =>
    -- What fits the shorter list of exceptions would fit the longer one.
    intro excepted
    exact admitted (grows _ _ removed excepted)

/-- A statement covers more than another of the same effect, under the same condition. -/
structure Statement.WidenedTo (statement other : Statement) : Prop where
  effect : statement.effect = other.effect
  action : statement.action.WidenedTo (· ⊆ ·) other.action
  resource : statement.resource.WidenedTo (· ⊆ ·) other.resource
  principal : Option.Rel (Selection.WidenedTo PrincipalBlock.ExtendedTo) statement.principal
    other.principal
  condition : statement.condition = other.condition

namespace Statement

variable {statement other : Statement} {request : Request}

/-- A wider statement concerns the requests that the narrower one does. -/
theorem WidenedTo.concerns (widened : statement.WidenedTo other)
    (about : statement.Concerns request) : other.Concerns request := by
  -- Some entry of a list still matches after entries were added.
  have grows (test : String → Prop) (patterns others : List String) (added : patterns ⊆ others)
      (matched : ∃ pattern ∈ patterns, test pattern) : ∃ pattern ∈ others, test pattern := by
    obtain ⟨pattern, inside, passed⟩ := matched
    exact ⟨pattern, added inside, passed⟩
  have action := widened.action.admits (grows _) about.action
  have resource := widened.resource.admits (grows _) about.resource
  refine ⟨action, resource, fun principal requested selection chosen => ?_⟩
  -- The element is there before where it is there afterwards.
  obtain ⟨old, there, wider⟩ := rel_some_right_iff.mp (chosen ▸ widened.principal)
  have admitted := about.principal principal requested old there
  exact wider.admits (fun _ _ extended named => extended.names named) admitted

/-- A wider statement applies to the requests that the narrower one does. -/
theorem WidenedTo.applies (widened : statement.WidenedTo other)
    (applies : statement.Applies request) : other.Applies request := by
  have about := widened.concerns applies.concerns
  have holds := applies.condition
  rw [widened.condition] at holds
  exact ⟨about, holds⟩

/-- A statement is tightened: a denial covers more, or a permission less. -/
inductive TightenedTo : Statement → Statement → Prop where
  | denial {statement other : Statement} (denies : statement.effect = .deny)
      (widened : statement.WidenedTo other) : TightenedTo statement other
  | permission {statement other : Statement} (allows : statement.effect = .allow)
      (narrowed : other.WidenedTo statement) : TightenedTo statement other

/-- A denial that applies still does after it was tightened. -/
theorem TightenedTo.denies (tightened : statement.TightenedTo other)
    (applies : statement.Applies request) (denies : statement.effect = .deny) :
    other.Applies request ∧ other.effect = .deny := by
  cases tightened with
  | denial _ widened => exact ⟨widened.applies applies, widened.effect ▸ denies⟩
  | permission allows => simp [denies] at allows

/-- A permission that applies after it was tightened applied before. -/
theorem TightenedTo.allows (tightened : statement.TightenedTo other)
    (applies : other.Applies request) (allows : other.effect = .allow) :
    statement.Applies request ∧ statement.effect = .allow := by
  cases tightened with
  | denial denies widened => simp [← widened.effect, denies] at allows
  | permission permits narrowed => exact ⟨narrowed.applies applies, permits⟩

end Statement

/-- A document is tightened: each of its statements is. -/
def Document.TightenedTo (document other : Document) : Prop :=
  -- A statement that stays as it is covers no less and no more.
  List.Forall₂ Statement.TightenedTo document.statements other.statements

section

variable {first second : List Statement} {request : Request}

/-- A denial that applies in a list still does after the list was tightened. -/
theorem exists_denial_of_tightened (tightened : List.Forall₂ Statement.TightenedTo first second)
    (denied : ∃ statement ∈ first, statement.Applies request ∧ statement.effect = .deny) :
    ∃ statement ∈ second, statement.Applies request ∧ statement.effect = .deny := by
  obtain ⟨statement, inside, applies, denies⟩ := denied
  obtain ⟨other, there, tighter⟩ := exists_of_mem_left tightened inside
  exact ⟨other, there, tighter.denies applies denies⟩

/-- A permission that applies in a tightened list applied in the list before. -/
theorem exists_permission_of_tightened
    (tightened : List.Forall₂ Statement.TightenedTo first second)
    (allowed : ∃ statement ∈ second, statement.Applies request ∧ statement.effect = .allow) :
    ∃ statement ∈ first, statement.Applies request ∧ statement.effect = .allow := by
  obtain ⟨other, inside, applies, allows⟩ := allowed
  obtain ⟨statement, there, tighter⟩ := exists_of_mem_left tightened.flip inside
  exact ⟨statement, there, tighter.allows applies allows⟩

end

/--
Tightening a policy grants nothing: what is allowed afterwards was allowed before.

Denials that cover more and permissions that cover less also leave every explicit denial in place,
as long as the request can be decided before and afterwards.
-/
theorem Document.evaluate_tightened {first second : Document}
    (tightened : first.TightenedTo second) {request : Request} {before after : Outcome}
    (decided : first.evaluate request = .ok before)
    (decidedToo : second.evaluate request = .ok after) :
    (after.decision = .allow → before.decision = .allow) ∧
      (before.decision = .explicitDeny → after.decision = .explicitDeny) := by
  obtain ⟨complete, rfl⟩ := evaluate_eq_ok_iff.mp decided
  obtain ⟨completeToo, rfl⟩ := evaluate_eq_ok_iff.mp decidedToo
  have member (statement : Statement) : statement ∈ (first.survey request).applying ↔
      statement ∈ first.statements ∧ statement.Applies request :=
    Survey.mem_applying_iff complete
  have memberToo (statement : Statement) : statement ∈ (second.survey request).applying ↔
      statement ∈ second.statements ∧ statement.Applies request :=
    Survey.mem_applying_iff completeToo
  simp only [Survey.decision_eq_allow_iff, Survey.decision_eq_explicitDeny_iff, member, memberToo,
    and_assoc]
  constructor
  · -- No denial applied before, or it would still apply.
    intro ⟨undenied, allowed⟩
    exact ⟨fun denied => undenied (exists_denial_of_tightened tightened denied),
      exists_permission_of_tightened tightened allowed⟩
  · intro denied
    exact exists_denial_of_tightened tightened denied

/-- A policy that grants reading and listing, and guards two buckets from most other principals. -/
def sharedDocument : Document :=
  -- The denial leaves out the buckets as well as one account and one service.
  ⟨"2012-10-17", none,
    [⟨0, some "Read", .allow, .only ["s3:Get*", "s3:List*"], .only ["*"], none, none⟩,
      ⟨1, some "Outside", .deny, .only ["s3:Delete*"],
        .allBut ["arn:aws:s3:::inside/*", "arn:aws:s3:::shared/*"],
        some (.allBut (.listed ⟨["123456789012"], [], [], ["lambda.amazonaws.com"]⟩)), none⟩]⟩

/-- The policy with a narrower permission and a wider denial. -/
def privateDocument : Document :=
  -- One bucket and the service are no longer left out of the denial, and there are more actions.
  ⟨"2012-10-17", none,
    [⟨0, some "Read", .allow, .only ["s3:Get*"], .only ["*"], none, none⟩,
      ⟨1, some "Outside", .deny, .only ["s3:Put*", "s3:Delete*"], .allBut ["arn:aws:s3:::inside/*"],
        some (.allBut (.listed ⟨["123456789012"], [], [], []⟩)), none⟩]⟩

/-- A request of another account to delete an object outside of both buckets. -/
def outsideRequest : Request :=
  -- The first document already denies it.
  ⟨"s3:DeleteObject", "arn:aws:s3:::outside/k", some ⟨.aws, "210987654321"⟩, .empty⟩

/-- What the first document denies to another account is still denied by the tighter one. -/
theorem evaluate_outside :
    sharedDocument.TightenedTo privateDocument ∧
      sharedDocument.evaluate outsideRequest = .ok ⟨.explicitDeny, ["Outside"]⟩ ∧
      ∃ after, privateDocument.evaluate outsideRequest = .ok after ∧
        after.decision = .explicitDeny := by
  have extended (kind : PrincipalKind) : PrincipalLists.of ⟨["123456789012"], [], [], []⟩ kind ⊆
      PrincipalLists.of ⟨["123456789012"], [], [], ["lambda.amazonaws.com"]⟩ kind := by
    cases kind <;> decide
  have tightened : sharedDocument.TightenedTo privateDocument :=
    .cons (.permission rfl ⟨rfl, .only (by decide), .only (by decide), .none, rfl⟩)
      (.cons (.denial rfl ⟨rfl, .only (by decide), .allBut (by decide),
        .some (.allBut (.listed extended)), rfl⟩) .nil)
  have decided : sharedDocument.evaluate outsideRequest = .ok ⟨.explicitDeny, ["Outside"]⟩ :=
    eq_ok_of_toOption (by decide +kernel)
  have decidedToo : privateDocument.evaluate outsideRequest = .ok ⟨.explicitDeny, ["Outside"]⟩ :=
    eq_ok_of_toOption (by decide +kernel)
  exact ⟨tightened, decided, _, decidedToo,
    (Document.evaluate_tightened tightened decided decidedToo).2 rfl⟩

end Policy

end AccessPolicy
