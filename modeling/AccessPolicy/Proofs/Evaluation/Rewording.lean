import AccessPolicy.Proofs.Evaluation.Restating
import AccessPolicy.Proofs.Policy.RewordingLaws

/-! Policies that are rewritten by any number of changes decide all requests as before. -/

namespace AccessPolicy.Policy

namespace Document

variable {request : Request}

/-- An accepted document decides like itself. -/
theorem DecidesLike.refl {tree : Json} {document : Document}
    (accepted : (Document.read tree).result = .ok document) (request : Request) :
    document.DecidesLike document request := by
  cases evaluated : document.evaluate request with
  | ok outcome => exact .decided evaluated evaluated
  | error error =>
    obtain ⟨earlier, statement, later, entry, split, -, -, -, rfl⟩ :=
      evaluate_eq_error_of_suitable (read_suitable accepted) evaluated
    exact .refused (by simp [split]) evaluated evaluated rfl rfl rfl rfl

/-- A document that decides like another decides like all those that the other decides like. -/
theorem DecidesLike.trans {first second third : Document}
    (left : first.DecidesLike second request) (right : second.DecidesLike third request) :
    first.DecidesLike third request := by
  cases left with
  | decided decidedFirst decidedSecond =>
    cases right with
    | decided again decidedThird =>
      obtain rfl := Except.ok.inj (decidedSecond.symm.trans again)
      exact .decided decidedFirst decidedThird
    | refused _ again => cases decidedSecond.symm.trans again
  | refused inside refusedFirst refusedSecond kind _ place placeToo =>
    cases right with
    | decided again => cases refusedSecond.symm.trans again
    | refused _ again refusedThird _ kindThird placeAgain placeThird =>
      -- The error of the second document has one place, so the third one names it as well.
      obtain rfl := Except.error.inj (refusedSecond.symm.trans again)
      exact .refused inside refusedFirst refusedThird kind kindThird place
        (placeThird.trans (placeAgain.symm.trans placeToo))

/-- A tree that is rewritten by one change is accepted, and its document decides as before. -/
theorem read_of_rewords {tree other : Json} (distinct : tree.Distinct) {document : Document}
    (accepted : (Document.read tree).result = .ok document) (reworded : Rewords tree other) :
    ∃ again, (Document.read other).result = .ok again ∧
      ∀ request, document.DecidesLike again request := by
  obtain ⟨written, lawful⟩ := (read_eq_ok_iff_writes distinct).mp accepted
  obtain ⟨again, writtenToo, restates⟩ := exists_of_rewords distinct reworded written
  exact ⟨again,
    (read_eq_ok_iff_writes (reworded.distinct distinct)).mpr ⟨writtenToo, restates.lawful lawful⟩,
    restates.decidesLike lawful⟩

/--
The meaning of a policy does not depend on how it is written.

A tree that is rewritten by any number of changes is accepted if it was before. Every request is
decided alike by both documents, with the same identifiers, or refused by both for an unsupported
operator in the same statement.
-/
theorem decidesLike_of_rewordings {tree variant : Json} (distinct : tree.Distinct)
    {document : Document} (accepted : (Document.read tree).result = .ok document)
    (reworded : Relation.ReflTransGen Rewords tree variant) :
    ∃ other, (Document.read variant).result = .ok other ∧
      ∀ request, document.DecidesLike other request := by
  -- Every tree on the way has no repeated names, which the next change relies on.
  suffices run : variant.Distinct ∧ ∃ other, (Document.read variant).result = .ok other ∧
      ∀ request, document.DecidesLike other request from run.2
  induction reworded with
  | refl => exact ⟨distinct, document, accepted, DecidesLike.refl accepted⟩
  | tail _ last ih =>
    obtain ⟨distinctBefore, before, acceptedBefore, likeBefore⟩ := ih
    obtain ⟨again, acceptedAgain, likeAgain⟩ := read_of_rewords distinctBefore acceptedBefore last
    exact ⟨last.distinct distinctBefore, again, acceptedAgain,
      fun request => (likeBefore request).trans (likeAgain request)⟩

end Document

/-- A policy of one statement, which stands without a list. -/
def lonePolicy (members : Json.Members Json) : Json :=
  -- It has neither a version nor an identifier.
  .object [("Statement", .object members)]

/-- A policy of one statement is rewritten by a change to an element of the statement. -/
theorem rewords_lonePolicy {earlier later : Json.Members Json} {name : String} {value other : Json}
    (element : RewordsElement name value other) :
    Rewords (lonePolicy (earlier ++ (name, value) :: later))
      (lonePolicy (earlier ++ (name, other) :: later)) :=
  Or.inr (@Json.MemberChanged.member _ [] [] "Statement" _ _ (.single (.member element)))

/-- A policy that denies what is not asked for in a secure way. -/
def secureTree : Json :=
  -- The truth value stands for its text.
  lonePolicy [("Effect", .string "Deny"), ("Action", .string "s3:*"),
    ("Resource", .array [.string "*"]),
    ("Condition", .object [("Bool", .object [("aws:SecureTransport", .bool false)])])]

/-- The document of that policy. -/
def secureDocument : Document :=
  -- The version is the one of policies that have none.
  ⟨"2008-10-17", none, [⟨0, none, .deny, .only ["s3:*"], .only ["*"], none,
    some [⟨⟨"Bool", .bool, false, none⟩, "aws:SecureTransport", ["false"]⟩]⟩]⟩

/-- The same policy with its statement in a list and its members in another order. -/
def secureVariant : Json :=
  -- One resource is repeated.
  .object [("Statement", .array [.object [("Action", .array [.string "s3:*"]),
    ("Effect", .string "Deny"), ("Resource", .array [.string "*", .string "*"]),
    ("Condition", .object [("Bool", .object [("aws:SecureTransport", .string "false")])])]])]

/-- Five changes lead from the one to the other. -/
theorem rewordings_secureTree : Relation.ReflTransGen Rewords secureTree secureVariant := by
  have truth : RewordsElement "Condition"
      (.object [("Bool", .object [("aws:SecureTransport", .bool false)])])
      (.object [("Bool", .object [("aws:SecureTransport", .string "false")])]) :=
    @Json.MemberChanged.member _ [] [] "Bool" _ _
      (@Json.MemberChanged.member _ [] [] "aws:SecureTransport" _ _ (.written (.truth false)))
  refine .head (Or.inl (@Json.Reordered.member [] [] "Statement" _ _ (.here (.swap _ _ _)))) ?_
  refine .head (@rewords_lonePolicy [] _ "Action" _ _ (.wrapped "s3:*")) ?_
  refine .head (@rewords_lonePolicy [_, _] _ "Resource" _ _ (.repeated List.mem_cons_self)) ?_
  refine .head (@rewords_lonePolicy [_, _, _] _ "Condition" _ _ truth) ?_
  exact .single (Or.inr (@Json.MemberChanged.member _ [] [] "Statement" _ _ (.wrapped _)))

/-- The rewritten policy is accepted, and decides every request like the policy. -/
theorem decidesLike_secureVariant :
    secureTree.Distinct ∧ (Document.read secureTree).result = .ok secureDocument ∧
      Relation.ReflTransGen Rewords secureTree secureVariant ∧
      ∃ other, (Document.read secureVariant).result = .ok other ∧
        ∀ request, secureDocument.DecidesLike other request := by
  have distinct : secureTree.Distinct := by
    simp [secureTree, lonePolicy, Json.distinct_object_iff, Json.distinct_array_iff, Json.names,
      Json.Distinct.string, Json.Distinct.bool]
  have accepted : (Document.read secureTree).result = .ok secureDocument :=
    eq_ok_of_toOption (by decide +kernel)
  exact ⟨distinct, accepted, rewordings_secureTree,
    Document.decidesLike_of_rewordings distinct accepted rewordings_secureTree⟩

end AccessPolicy.Policy
