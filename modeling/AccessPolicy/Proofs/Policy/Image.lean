import AccessPolicy.Proofs.Policy.DocumentReader

/-! A tree writes one document at most, which is the one that is read from it. -/

namespace AccessPolicy.Policy

/-- A value writes one list of texts at most. -/
theorem WritesTexts.unique : Relator.RightUnique WritesTexts := by
  intro value texts others written writtenToo
  have text : Function.Injective Json.string := fun _ _ => Json.string.inj
  -- A value that is one text by itself is no list.
  cases written with
  | single text => cases writtenToo with | single => rfl
  | list filled =>
    generalize shape : Json.array (texts.map .string) = value at writtenToo
    cases writtenToo with
    | single => cases shape
    | list => exact text.list_map (Json.array.inj shape)

/-- A member that may be missing writes one text, or none. -/
theorem WritesOptional.unique : Relator.RightUnique WritesOptional := by
  intro value text other written writtenToo
  cases written <;> cases writtenToo <;> rfl

/-- A scalar writes one text at most. -/
theorem WritesScalar.unique : Relator.RightUnique WritesScalar := by
  intro value text other written writtenToo
  cases written <;> cases writtenToo <;> rfl

/-- A value writes one list of expected texts at most. -/
theorem WritesValues.unique : Relator.RightUnique WritesValues := by
  intro value texts others written writtenToo
  -- A scalar is no list.
  cases written with
  | single scalar =>
    cases writtenToo with
    | single other => rw [WritesScalar.unique scalar other]
    | list => cases scalar
  | list filled each =>
    cases writtenToo with
    | single other => cases other
    | list _ eachToo => exact WritesScalar.unique.forall₂ each eachToo

/-- A member writes the principals of a kind in one way. -/
theorem WritesNames.unique : Relator.RightUnique WritesNames := by
  intro value names others written writtenToo
  cases written with
  | missing => cases writtenToo with | missing => rfl
  | there texts => cases writtenToo with | there textsToo => exact WritesTexts.unique texts textsToo

/-- A value writes one block at most. -/
theorem WritesBlock.unique : Relator.RightUnique WritesBlock := by
  intro value block other written writtenToo
  cases written with
  | everyone => cases writtenToo with | everyone => rfl
  | listed filled known each =>
    cases writtenToo with
    | listed _ _ eachToo =>
      exact congrArg _ (PrincipalLists.eq_of_forall_of fun kind =>
        WritesNames.unique (each kind) (eachToo kind))

/-- A leaf writes one entry at most. -/
theorem WritesEntry.unique : Relator.RightUnique WritesEntry := by
  intro leaf ⟨operator, key, values⟩ ⟨operator', key', values'⟩ written writtenToo
  obtain rfl : operator = operator' := written.operator.unique writtenToo.operator
  obtain rfl : key = key' := written.key.trans writtenToo.key.symm
  obtain rfl : values = values' := WritesValues.unique written.values writtenToo.values
  rfl

/-- A value writes one condition at most. -/
theorem WritesCondition.unique : Relator.RightUnique WritesCondition := by
  intro value entries others written writtenToo
  cases written with
  | object filled each =>
    cases writtenToo with
    | object _ eachToo => exact WritesEntry.unique.forall₂ each eachToo

/-- What may be missing is related to one result, or to none, where each value is. -/
theorem rel_unique {α β : Type} {holds : α → β → Prop} (unique : Relator.RightUnique holds) :
    Relator.RightUnique (Option.Rel holds) := by
  intro value result other related relatedToo
  cases related with
  | none => cases relatedToo with | none => rfl
  | some first => cases relatedToo with | some second => exact congrArg some (unique first second)

/-- Members write one selection at most, where values write one thing at most. -/
theorem WritesSelection.unique {α : Type} {writes : Json → α → Prop}
    (unique : Relator.RightUnique writes) (element : String) :
    Relator.RightUnique (WritesSelection writes element) := by
  intro members selection other written writtenToo
  have covered := rel_unique unique written.covered writtenToo.covered
  have leftOut := rel_unique unique written.leftOut writtenToo.leftOut
  -- What is named and in which way are both seen from these two.
  rcases selection with _ | _ | _ <;> rcases other with _ | _ | _ <;>
    simp_all [Selection.covered?, Selection.leftOut?]

/-- No two effects share a name. -/
theorem Effect.name_injective {effect other : Effect} (same : effect.name = other.name) :
    effect = other := by
  cases effect <;> cases other <;> first | rfl | (exact absurd same (by decide))

/-- Members write one statement at a place. -/
theorem WritesStatement.unique {members : Json.Members Json} {statement other : Statement}
    (written : WritesStatement members statement) (writtenToo : WritesStatement members other)
    (place : statement.index = other.index) : statement = other := by
  have effect : statement.effect = other.effect :=
    Effect.name_injective (by simpa using written.effect.symm.trans writtenToo.effect)
  have sid := WritesOptional.unique written.sid writtenToo.sid
  have action := WritesSelection.unique WritesTexts.unique _ written.action writtenToo.action
  have resource := WritesSelection.unique WritesTexts.unique _ written.resource writtenToo.resource
  have principal :=
    WritesSelection.unique WritesBlock.unique _ written.principal writtenToo.principal
  have condition := rel_unique WritesCondition.unique written.condition writtenToo.condition
  obtain ⟨_, _, _, _, _, _, _⟩ := statement
  obtain ⟨_, _, _, _, _, _, _⟩ := other
  simp_all

/-- Objects write one list of statements from a place on. -/
theorem WritesStatements.unique (place : Nat) : Relator.RightUnique (WritesStatements place) := by
  intro objects statements others written writtenToo
  induction written generalizing others with
  | nil => cases writtenToo with | nil => rfl
  | cons here first behind ih =>
    cases writtenToo with
    | cons hereToo firstToo behindToo =>
      rw [first.unique firstToo (here.trans hereToo.symm), ih behindToo]

/-- A value lists the objects of statements in one way. -/
theorem ListsStatements.unique : Relator.RightUnique ListsStatements := by
  intro value objects others listed listedToo
  have object : Function.Injective Json.object := fun _ _ => Json.object.inj
  cases listed with
  | single members => cases listedToo with | single => rfl
  | list objects =>
    generalize shape : Json.array (objects.map .object) = value at listedToo
    cases listedToo with
    | single => cases shape
    | list => exact object.list_map (Json.array.inj shape)

/-- A tree writes one document at most. -/
theorem WritesDocument.unique : Relator.RightUnique WritesDocument := by
  intro tree document other written writtenToo
  cases written with
  | object _ version id there listed statements =>
    cases writtenToo with
    | object _ versionToo idToo thereToo listedToo statementsToo =>
      obtain ⟨named, identified, list⟩ := document
      obtain ⟨named', identified', list'⟩ := other
      obtain rfl : identified = identified' := WritesOptional.unique id idToo
      obtain rfl := Option.some.inj (there.symm.trans thereToo)
      obtain rfl := ListsStatements.unique listed listedToo
      obtain rfl : list = list' := WritesStatements.unique 0 statements statementsToo
      obtain rfl : named = named' := by
        rcases version with here | ⟨absent, fallback⟩
        · rcases versionToo with hereToo | ⟨absentToo, -⟩
          · simpa using here.symm.trans hereToo
          · cases here.symm.trans absentToo
        · rcases versionToo with hereToo | ⟨-, fallbackToo⟩
          · cases absent.symm.trans hereToo
          · exact fallback.trans fallbackToo.symm
      rfl

/--
A document that is read is the one that its tree writes, element by element and in order.

Trees with an object that names a member twice are left out: none of them is read from a text.
-/
theorem Document.read_image {tree : Json} (distinct : tree.Distinct) {document : Document}
    (accepted : (Document.read tree).result = .ok document) :
    WritesDocument tree document ∧ ∀ other, WritesDocument tree other → other = document := by
  obtain ⟨written, -⟩ := (Document.read_eq_ok_iff_writes distinct).mp accepted
  exact ⟨written, fun other writtenToo => WritesDocument.unique writtenToo written⟩

/-- A policy of two statements with conditions of several operators and kinds of scalars. -/
def ledgerTree : Json :=
  -- Both ways to name actions and resources are in use.
  .object [("Id", .string "ledger"), ("Statement", .array [
    .object [("Sid", .string "Read"), ("Effect", .string "Allow"), ("Principal", .string "*"),
      ("Action", .array [.string "s3:Get*", .string "s3:List*"]), ("NotResource", .string "*"),
      ("Condition", .object [
        ("ForAnyValues:StringLikeIfExists", .object [("tags", .string "a*"),
          ("roles", .array [.string "x", .int (-3), .bool false])]),
        ("Bool", .object [("aws:SecureTransport", .bool true)])])],
    .object [("Resource", .string "arn:aws:s3:::b/*"), ("NotAction", .string "s3:Put*"),
      ("Effect", .string "Deny"), ("NotPrincipal", .object [("Federated", .string "idp"),
        ("AWS", .array [.string "123456789012", .string "*"])])]])]

/-- The document of that policy. -/
def ledgerDocument : Document :=
  -- The keys of the first operator come before that of the second.
  ⟨"2008-10-17", some "ledger",
    [⟨0, some "Read", .allow, .only ["s3:Get*", "s3:List*"], .allBut ["*"],
        some (.only .everyone),
        some [⟨⟨"ForAnyValues:StringLikeIfExists", .stringLike, true, some .forAnyValue⟩, "tags",
            ["a*"]⟩,
          ⟨⟨"ForAnyValues:StringLikeIfExists", .stringLike, true, some .forAnyValue⟩, "roles",
            ["x", "-3", "false"]⟩,
          ⟨⟨"Bool", .bool, false, none⟩, "aws:SecureTransport", ["true"]⟩]⟩,
      ⟨1, none, .deny, .allBut ["s3:Put*"], .only ["arn:aws:s3:::b/*"],
        some (.allBut (.listed ⟨["123456789012", "*"], [], ["idp"], []⟩)), none⟩]⟩

/-- The document of the policy is its image, and there is no other. -/
theorem ledgerDocument_image :
    ledgerTree.Distinct ∧ (Document.read ledgerTree).result = .ok ledgerDocument ∧
      WritesDocument ledgerTree ledgerDocument ∧
      ∀ other, WritesDocument ledgerTree other → other = ledgerDocument := by
  have distinct : ledgerTree.Distinct := by
    simp [ledgerTree, Json.distinct_object_iff, Json.distinct_array_iff, Json.names,
      Json.Distinct.string, Json.Distinct.bool, Json.Distinct.int]
  have accepted : (Document.read ledgerTree).result = .ok ledgerDocument :=
    eq_ok_of_toOption (by decide +kernel)
  exact ⟨distinct, accepted, Document.read_image distinct accepted⟩

end AccessPolicy.Policy
