import AccessPolicy.Evaluation
import AccessPolicy.Proofs.Condition.Entry

/-! When a statement applies to a request, said without an order of checks. -/

namespace AccessPolicy

/-- What an element covers, by a property of what it names. -/
def Policy.Selection.Admits {α : Type} (selection : Selection α) (fits : α → Prop) : Prop :=
  -- Leaving out turns the property round.
  match selection with
  | .only named => fits named
  | .allBut named => ¬ fits named

/-- Covering by a test is covering by the property that the test decides. -/
theorem Policy.Selection.covers_iff {α : Type} {selection : Selection α} {test : α → Bool}
    {fits : α → Prop} (decides : ∀ named, test named = true ↔ fits named) :
    selection.covers test = true ↔ selection.Admits fits := by
  cases selection with
  | only named => exact decides named
  | allBut named => simp [covers, Admits, ← decides]

/-- A block names a principal through an entry of its kind, or through a wildcard. -/
def PrincipalBlock.Names (block : PrincipalBlock) (principal : Principal) : Prop :=
  -- The wildcard of the accounts stands for principals of all kinds.
  match block with
  | .everyone => True
  | .listed lists =>
    Arn.wildcard ∈ lists.aws ∨
      ∃ pattern ∈ lists.of principal.kind, acceptsEntry principal.kind pattern principal.value

/-- The test of a block finds the principals that it names. -/
theorem PrincipalBlock.accepts_iff {block : PrincipalBlock} {principal : Principal} :
    block.accepts principal = true ↔ block.Names principal := by
  cases block with
  | everyone => simp [accepts, Names]
  | listed lists => simp [accepts, Names]

namespace Policy.Statement

/-- A statement is about a request: all its elements but the condition cover it. -/
structure Concerns (statement : Statement) (request : Request) : Prop where
  /-- Some pattern of covered actions matches, or none of those left out does. -/
  action : statement.action.Admits fun patterns =>
    ∃ pattern ∈ patterns, Glob.acceptsAnyCase pattern request.action = true
  /-- Some pattern of covered resources matches, or none of those left out does. -/
  resource : statement.resource.Admits fun patterns =>
    ∃ pattern ∈ patterns, Arn.acceptsResource pattern request.resource = true
  /-- A principal counts only where both the request and the statement name one. -/
  principal : ∀ principal, request.principal = some principal →
    ∀ selection, statement.principal = some selection →
      selection.Admits fun block => block.Names principal

/-- A statement applies to a request: it is about it, and every entry of its condition holds. -/
structure Applies (statement : Statement) (request : Request) : Prop where
  concerns : statement.Concerns request
  /-- A missing condition has no entries. -/
  condition : ∀ entry ∈ statement.condition.getD [], entry.evaluate request.context = .ok true

/-- A principal is admitted where the request names none, or one that the statement covers. -/
theorem admitsPrincipal_iff {statement : Statement} {principal : Option Principal} :
    statement.admitsPrincipal principal = true ↔
      ∀ named, principal = some named →
        ∀ selection, statement.principal = some selection →
          selection.Admits fun block => block.Names named := by
  cases principal with
  | none => simp [admitsPrincipal]
  | some named =>
    cases chosen : statement.principal with
    | none => simp [admitsPrincipal, coversPrincipal, chosen]
    | some selection =>
      have decided : selection.covers (fun block => block.accepts named) = true ↔ _ :=
        selection.covers_iff fun _ => PrincipalBlock.accepts_iff
      simp [admitsPrincipal, coversPrincipal, chosen, decided]

/-- The three checks in a row find the statements that are about a request. -/
theorem concerns_iff {statement : Statement} {request : Request} :
    statement.concerns request = true ↔ statement.Concerns request := by
  have action : statement.coversAction request.action = true ↔ _ :=
    statement.action.covers_iff fun _ => List.any_eq_true
  have resource : statement.coversResource request.resource = true ↔ _ :=
    statement.resource.covers_iff fun _ => List.any_eq_true
  rw [concerns, Bool.and_eq_true, Bool.and_eq_true, action, resource, admitsPrincipal_iff]
  exact ⟨fun ⟨⟨action, resource⟩, principal⟩ => ⟨action, resource, principal⟩,
    fun about => ⟨⟨about.action, about.resource⟩, about.principal⟩⟩

/-- Whether a statement is about a request can be computed. -/
instance (statement : Statement) (request : Request) : Decidable (statement.Concerns request) :=
  decidable_of_iff _ concerns_iff

/-- Evaluating a statement finds it applicable exactly where it applies. -/
theorem applies_eq_true_iff {statement : Statement} {request : Request} :
    statement.applies request = .ok true ↔ statement.Applies request := by
  unfold applies
  split
  · rename_i about
    have about := concerns_iff.mp about
    -- Only the condition is left to decide, and it may be missing.
    rcases condition : statement.condition with _ | entries
    · simp only [true_iff]
      exact ⟨about, by simp [condition]⟩
    · rw [Condition.evaluateBlock_eq_true_iff]
      exact ⟨fun all => ⟨about, by simpa [condition] using all⟩,
        fun applies => by simpa [condition] using applies.condition⟩
  · rename_i apart
    exact iff_of_false (by simp) fun applies => apart (concerns_iff.mpr applies.concerns)

/-- Whether a statement applies to a request can be computed. -/
instance (statement : Statement) (request : Request) : Decidable (statement.Applies request) :=
  decidable_of_iff ((statement.applies request).toOption = some true) (by
    -- Forgetting which fault there was does not confuse it with an answer.
    rw [← applies_eq_true_iff]
    cases statement.applies request <;> simp [Except.toOption])

/-- A statement that does not concern a request has an answer, whatever its condition is. -/
theorem applies_of_not_concerns {statement : Statement} {request : Request}
    (apart : ¬ statement.Concerns request) : statement.applies request = .ok false := by
  rw [applies, if_neg (mt concerns_iff.mp apart)]

/-- For a statement that concerns a request only the condition is left to decide. -/
theorem applies_of_concerns {statement : Statement} {request : Request}
    (about : statement.Concerns request) :
    statement.applies request =
      Condition.evaluateBlock (statement.condition.getD []) request.context := by
  rw [applies, if_pos (concerns_iff.mpr about)]
  -- The block without entries holds, just as a missing condition does.
  cases statement.condition with
  | none => rfl
  | some entries => rfl

end Policy.Statement

end AccessPolicy
