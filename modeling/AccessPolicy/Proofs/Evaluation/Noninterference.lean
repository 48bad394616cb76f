import AccessPolicy.Proofs.Condition.Alike
import AccessPolicy.Proofs.Context
import AccessPolicy.Proofs.Evaluation.Survey
import AccessPolicy.Proofs.Result

/-! What evaluation sees of a context: the sets of values of the keys that a policy names. -/

namespace AccessPolicy.Policy

/-- A statement answers alike in contexts with the same values of the keys that it names. -/
theorem Statement.applies_congr {statement : Statement} {request other : Request}
    (action : request.action = other.action) (resource : request.resource = other.resource)
    (principal : request.principal = other.principal)
    (same : ∀ entry ∈ statement.condition.getD [], SameMembers
      ((request.context.values? entry.key).getD []) ((other.context.values? entry.key).getD [])) :
    statement.applies request = statement.applies other := by
  -- All elements but the condition have no way to see the context.
  have concerns : statement.concerns request = statement.concerns other := by
    simp only [Statement.concerns, action, resource, principal]
  rw [applies, applies, concerns]
  split
  · cases condition : statement.condition with
    | none => rfl
    | some entries => exact Condition.evaluateBlock_congr (by simpa [condition] using same)
  · rfl

/-- Requests with the same values under every name lead to the same outcome or the same error. -/
theorem Document.evaluate_congr {document : Document} {request other : Request}
    (action : request.action = other.action) (resource : request.resource = other.resource)
    (principal : request.principal = other.principal)
    (same : ∀ name, (request.context.values? name).getD [] = (other.context.values? name).getD []) :
    document.evaluate request = document.evaluate other := by
  have answers : ∀ statement ∈ document.statements,
      statement.applies request = statement.applies other := by
    intro statement _
    refine Statement.applies_congr action resource principal fun entry _ => ?_
    rw [same entry.key]
    exact SameMembers.refl _
  rw [evaluate, evaluate, survey, survey, Survey.of_congr answers]

/--
Evaluation sees a context only as the sets of values of the keys that the policy names.

The values of a key are those under all spellings of it, and a missing key has none. Where each
entry finds the same values in two contexts, requests that differ in these contexts alone lead to
the same outcome or the same error.
-/
theorem Document.evaluate_eq_of_collected {document : Document}
    {first second : List (String × List String)}
    (same : ∀ statement ∈ document.statements, ∀ entry ∈ statement.condition.getD [],
      SameMembers (Context.collected first entry.key) (Context.collected second entry.key))
    (action resource : String) (principal : Option Principal) :
    document.evaluate ⟨action, resource, principal, .ofEntries first⟩ =
      document.evaluate ⟨action, resource, principal, .ofEntries second⟩ := by
  have answers : ∀ statement ∈ document.statements,
      statement.applies ⟨action, resource, principal, .ofEntries first⟩ =
        statement.applies ⟨action, resource, principal, .ofEntries second⟩ := by
    intro statement inside
    refine Statement.applies_congr rfl rfl rfl fun entry named => ?_
    simpa only [Context.values?_ofEntries] using same statement inside entry named
  rw [evaluate, evaluate, survey, survey, Survey.of_congr answers]

/-- A policy whose statements compare texts and numbers, test for presence and ask for all tags. -/
def taggedAccessDocument : Document :=
  -- Operators with an ending and with a set operator are among those of the conditions.
  ⟨"2012-10-17", none,
    [⟨0, some "Read", .allow, .only ["s3:Get*"], .only ["*"], none,
        some [⟨⟨"StringEquals", .stringEquals, false, none⟩, "aws:PrincipalTag/Team", ["ops"]⟩,
          ⟨⟨"NumericLessThanIfExists", .numericLessThan, true, none⟩, "age", ["5"]⟩,
          ⟨⟨"Null", .null, false, none⟩, "mfa", ["true"]⟩]⟩,
      ⟨1, some "Tags", .deny, .only ["s3:*"], .only ["*"], none,
        some [⟨⟨"ForAllValues:StringLike", .stringLike, false, some .forAllValues⟩, "tags",
          ["a*"]⟩]⟩]⟩

/-- The entries of a context with two spellings of a name, and a name that has no values. -/
def scatteredEntries : List (String × List String) :=
  -- The policy does not mention the last name.
  [("TAGS", ["b"]), ("aws:principaltag/team", ["ops", "dev"]), ("mfa", []),
    ("AWS:PrincipalTag/TEAM", ["ops"]), ("other", ["x"])]

/-- The entries of a context with the same values, each under one name. -/
def gatheredEntries : List (String × List String) :=
  -- What has no values is left out.
  [("aws:PrincipalTag/Team", ["dev", "ops"]), ("tags", ["b", "b"])]

/-- The two contexts are one and the same to the policy, which allows the request in both. -/
theorem evaluate_gathered :
    (∀ statement ∈ taggedAccessDocument.statements, ∀ entry ∈ statement.condition.getD [],
      SameMembers (Context.collected scatteredEntries entry.key)
        (Context.collected gatheredEntries entry.key)) ∧
    taggedAccessDocument.evaluate
        ⟨"s3:GetObject", "arn:aws:s3:::b/k", none, .ofEntries scatteredEntries⟩ =
      taggedAccessDocument.evaluate
        ⟨"s3:GetObject", "arn:aws:s3:::b/k", none, .ofEntries gatheredEntries⟩ ∧
    taggedAccessDocument.evaluate
        ⟨"s3:GetObject", "arn:aws:s3:::b/k", none, .ofEntries gatheredEntries⟩ =
      .ok ⟨.allow, ["Read"]⟩ := by
  have same : ∀ statement ∈ taggedAccessDocument.statements,
      ∀ entry ∈ statement.condition.getD [],
        SameMembers (Context.collected scatteredEntries entry.key)
          (Context.collected gatheredEntries entry.key) := by
    decide +kernel
  exact ⟨same, Document.evaluate_eq_of_collected same _ _ _, eq_ok_of_toOption (by decide +kernel)⟩

end AccessPolicy.Policy
