import AccessPolicy.Proofs.Evaluation.Stepwise
import AccessPolicy.Proofs.Glob.LetterCase
import AccessPolicy.Proofs.Policy.Restating

/-! What evaluation sees of actions: everything but the case of their ASCII letters. -/

namespace AccessPolicy

open Policy (Statement Document Selection)

namespace Policy.Statement

/-- Another statement differs in its patterns for actions, and these in the case of ASCII letters. -/
inductive RecasesAction (statement : Statement) : Statement → Prop where
  | of {action : Selection (List String)}
      (alike : statement.action.Restates (List.Forall₂ Text.AlikeInAscii) action) :
      RecasesAction statement { statement with action }

variable {statement other : Statement}

/-- Patterns in another case of ASCII letters cover the actions in another case of such letters. -/
theorem RecasesAction.coversAction_eq (recases : statement.RecasesAction other)
    {action again : String} (same : Text.AlikeInAscii action again) :
    statement.coversAction action = other.coversAction again := by
  cases recases with
  | @of selection restates =>
    refine restates.covers_eq fun patterns others alike => ?_
    exact any_eq_of_forall₂ (fun _ _ alike => Glob.acceptsAnyCase_congr alike same) alike

/-- A request in another case of ASCII letters is answered as before. -/
theorem RecasesAction.answersLike (recases : statement.RecasesAction other) {request : Request}
    {action : String} (same : Text.AlikeInAscii request.action action) :
    Statement.AnswersLike request { request with action } statement other := by
  have covers := recases.coversAction_eq same
  cases recases with
  | @of selection restates =>
    have concerns : statement.concerns request =
        { statement with action := selection }.concerns { request with action } := by
      rw [Statement.concerns, Statement.concerns, covers]
      rfl
    have answer : statement.applies request =
        { statement with action := selection }.applies { request with action } := by
      rw [applies, applies, concerns]
    exact ⟨rfl, rfl, rfl, answer⟩

end Policy.Statement

/--
The case of ASCII letters counts in no action, neither in that of a request nor in patterns.

Whatever other characters there are, a pattern matches an action in every such case or in none,
and in ASCII it does so where the lower cases match exactly. So evaluation leads to the same outcome
or error for documents and requests that differ in this alone.
-/
theorem Policy.Document.evaluate_recased :
    (∀ pattern patternToo action actionToo : String, Text.AlikeInAscii pattern patternToo →
      Text.AlikeInAscii action actionToo →
        Glob.acceptsAnyCase pattern action = Glob.acceptsAnyCase patternToo actionToo) ∧
    (∀ pattern action : String, Text.IsAscii pattern → Text.IsAscii action →
      Glob.acceptsAnyCase pattern action =
        Glob.accepts (Text.lower pattern) (Text.lower action)) ∧
    ∀ (first second : Document) (request : Request) (action : String),
      List.Forall₂ Statement.RecasesAction first.statements second.statements →
      Text.AlikeInAscii request.action action →
        first.evaluate request = second.evaluate { request with action } := by
  refine ⟨fun _ _ _ _ alike same => Glob.acceptsAnyCase_congr alike same,
    fun _ _ ascii asciiToo => Glob.acceptsAnyCase_of_ascii ascii asciiToo, ?_⟩
  intro first second request action recased same
  exact evaluate_eq_of_answersLike (recased.imp fun _ _ recases => recases.answersLike same)

/-- A policy that keeps all but a few actions from being taken, and one of the few as well. -/
def Policy.guardedActions : Document :=
  -- The second pattern ends with a capital sigma, whose lower case depends on its neighbours.
  ⟨"2012-10-17", none,
    [⟨0, some "Use", .allow, .only ["s3:*", "x:\u03A3"], .only ["*"], none, none⟩,
      ⟨1, some "Keep", .deny, .allBut ["s3:Get*", "X:a\u03A3"], .only ["*"], none, none⟩]⟩

/-- The policy with other capital letters. -/
def Policy.shoutedActions : Document :=
  -- The letters beyond ASCII are the same.
  ⟨"2012-10-17", none,
    [⟨0, some "Use", .allow, .only ["S3:*", "X:\u03A3"], .only ["*"], none, none⟩,
      ⟨1, some "Keep", .deny, .allBut ["S3:GET*", "x:A\u03A3"], .only ["*"], none, none⟩]⟩

/-- The two policies decide alike about a denied action, in capital letters and in small ones. -/
theorem Policy.evaluate_shouted :
    Glob.acceptsAnyCase "X:a\u03A3" "x:A\u03C2" = Glob.acceptsAnyCase "x:A\u03A3" "X:a\u03C2" ∧
      Glob.acceptsAnyCase "S3:Get*" "s3:getobject" =
        Glob.accepts (Text.lower "S3:Get*") (Text.lower "s3:getobject") ∧
      guardedActions.evaluate ⟨"s3:DeleteObject", "arn:aws:s3:::b/k", none, .empty⟩ =
        shoutedActions.evaluate ⟨"S3:DELETEOBJECT", "arn:aws:s3:::b/k", none, .empty⟩ ∧
      shoutedActions.evaluate ⟨"S3:DELETEOBJECT", "arn:aws:s3:::b/k", none, .empty⟩ =
        .ok ⟨.explicitDeny, ["Keep"]⟩ := by
  obtain ⟨matching, ascii, evaluated⟩ := Document.evaluate_recased
  have recased : List.Forall₂ Statement.RecasesAction guardedActions.statements
      shoutedActions.statements :=
    .cons (.of (.only (.cons (by decide) (.cons (by decide) .nil))))
      (.cons (.of (.allBut (.cons (by decide) (.cons (by decide) .nil)))) .nil)
  exact ⟨matching _ _ _ _ (by decide) (by decide), ascii _ _ (by decide) (by decide),
    evaluated guardedActions shoutedActions
      ⟨"s3:DeleteObject", "arn:aws:s3:::b/k", none, .empty⟩ "S3:DELETEOBJECT" recased (by decide),
    eq_ok_of_toOption (by decide +kernel)⟩

end AccessPolicy
