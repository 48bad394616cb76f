import AccessPolicy.Proofs.Arn
import AccessPolicy.Proofs.Policy.Grammar
import AccessPolicy.Proofs.Policy.Rebuilding

/-! Reading accepts the documents of the grammar and nothing else. -/

namespace AccessPolicy.Policy

open Condition (Entry OperatorKey)

/-- The test for the shape of resource names finds the texts of that shape. -/
theorem hasShape_iff {text : String} : Arn.hasShape text = true ↔ IsShapedLikeArn text := by
  rw [Arn.hasShape, Bool.and_eq_true, decide_eq_true_iff, List.isPrefixOf_iff_prefix]
  constructor
  · intro shaped
    obtain ⟨⟨rest, parts⟩, colons⟩ := shaped
    exact ⟨String.ofList rest, String.toList_injective (by simp [← parts]), colons⟩
  · intro shaped
    obtain ⟨rest, parts, colons⟩ := shaped
    exact ⟨⟨rest.toList, by simp [parts]⟩, colons⟩

/-- The test for patterns of actions finds them. -/
theorem isActionPattern_iff {text : String} :
    Reader.isActionPattern text = true ↔ IsActionPattern text := by
  constructor
  · intro passed
    unfold Reader.isActionPattern at passed
    split at passed
    · rename_i everything
      rw [everything]
      exact .everything
    · split at passed
      · rename_i service name parts
        obtain ⟨joined, first⟩ := Text.cut_eq_some_iff.mp parts
        have whole : text = String.ofList service ++ ":" ++ String.ofList name :=
          String.toList_injective (by simp [joined])
        rw [whole]
        simp only [Bool.and_eq_true, Bool.not_eq_true', List.isEmpty_eq_false_iff] at passed
        refine .named (by simpa using first) (fun none => passed.1 ?_) fun none => passed.2 ?_
        · simpa using congrArg String.toList none
        · simpa using congrArg String.toList none
      · cases passed
  · intro pattern
    cases pattern with
    | everything => rfl
    | @named service name first served filled =>
      have parts : Text.cut ':' (service ++ ":" ++ name).toList =
          (service.toList, some name.toList) :=
        Text.cut_eq_some_iff.mpr ⟨by simp, first⟩
      rw [Reader.isActionPattern, parts]
      simp [served, filled]

/-- The test for patterns of resources finds them. -/
theorem isResourcePattern_iff {text : String} :
    Reader.isResourcePattern text = true ↔ IsResourcePattern text := by
  simp only [Reader.isResourcePattern, Bool.or_eq_true, decide_eq_true_iff, hasShape_iff]
  constructor
  · rintro (rfl | shape)
    · exact .everything
    · exact .shaped shape
  · intro pattern
    cases pattern with
    | everything => exact Or.inl rfl
    | shaped shape => exact Or.inr shape

/-- The test for principals of accounts finds them. -/
theorem isAwsPrincipal_iff {text : String} :
    Reader.isAwsPrincipal text = true ↔ IsAwsPrincipal text := by
  simp only [Reader.isAwsPrincipal, Bool.or_eq_true, decide_eq_true_iff, hasShape_iff,
    Arn.isAccountId_iff]
  constructor
  · rintro ((rfl | ⟨twelve, digits⟩) | shape)
    · exact .everyone
    · exact .account twelve digits
    · exact .shaped shape
  · intro principal
    cases principal with
    | everyone => exact Or.inl (Or.inl rfl)
    | account twelve digits => exact Or.inl (Or.inr ⟨twelve, digits⟩)
    | shaped shape => exact Or.inr shape

/-- Texts that fit are what a value writes, and all of these fit. -/
theorem isTexts_iff {fits : String → Prop} {value : Json} :
    IsTexts fits value ↔ ∃ texts, WritesTexts value texts ∧ ∀ text ∈ texts, fits text := by
  constructor
  · intro grammatical
    cases grammatical with
    | single fitting => exact ⟨_, .single _, by simpa using fitting⟩
    | list filled each =>
      obtain ⟨texts, all⟩ := exists_forall₂_iff.mpr each
      obtain ⟨same, fitting⟩ := forall₂_and_right_iff.mp all
      rw [forall₂_eq_map_iff] at same
      subst same
      exact ⟨texts, .list (by simpa using filled), fitting⟩
  · intro ⟨texts, written, fitting⟩
    cases written with
    | single text => exact .single (by simpa using fitting)
    | list filled =>
      refine .list (by simpa using filled) fun item inside => ?_
      obtain ⟨text, there, rfl⟩ := List.mem_map.mp inside
      exact ⟨text, rfl, fitting text there⟩

/-- A member that may be missing is what one writes, or writes that there is none. -/
theorem isOptionalText_iff {value : Option Json} :
    IsOptionalText value ↔ ∃ text, WritesOptional value text := by
  constructor
  · intro optional
    cases optional with
    | missing => exact ⟨_, .missing⟩
    | null => exact ⟨_, .null⟩
    | text text => exact ⟨_, .text text⟩
  · intro ⟨_, written⟩
    cases written with
    | missing => exact .missing
    | null => exact .null
    | text text => exact .text text

section Selection

variable {α : Type} {writes : Json → α → Prop} {element : String} {members : Json.Members Json}

/-- A selection is written where one spelling of the element is there, and writes something. -/
theorem hasElement_iff {fits : Json → Prop}
    (written : ∀ value, fits value ↔ ∃ named, writes value named) :
    HasElement fits element members ↔
      ∃ selection, WritesSelection writes element members (some selection) := by
  constructor
  · intro there
    cases there with
    | covered there alone fitting =>
      obtain ⟨named, writing⟩ := (written _).mp fitting
      exact ⟨.only named, writesSelection_only_iff.mpr ⟨⟨_, there, writing⟩, alone⟩⟩
    | leftOut there alone fitting =>
      obtain ⟨named, writing⟩ := (written _).mp fitting
      exact ⟨.allBut named, writesSelection_allBut_iff.mpr ⟨alone, _, there, writing⟩⟩
  · intro ⟨selection, selected⟩
    cases selection with
    | only named =>
      obtain ⟨⟨value, there, writing⟩, alone⟩ := writesSelection_only_iff.mp selected
      exact .covered there alone ((written value).mpr ⟨named, writing⟩)
    | allBut named =>
      obtain ⟨alone, value, there, writing⟩ := writesSelection_allBut_iff.mp selected
      exact .leftOut there alone ((written value).mpr ⟨named, writing⟩)

end Selection

namespace Reader

/-- The patterns of an element are read where it is there and names patterns. -/
theorem readPatternElement_accepted_iff {isPattern : String → Bool} {fits : String → Prop}
    (decides : ∀ text, isPattern text = true ↔ fits text) {element : String}
    {members : Json.Members Json} :
    (∃ selection, readPatternElement isPattern element members = .ok selection) ↔
      HasElement (IsTexts fits) element members := by
  simp only [readPatternElement_eq_ok_iff, decides]
  exact (hasElement_iff fun value => isTexts_iff).symm

variable {field : String}

/-- Principals are read from members that each name some of a known kind. -/
theorem foldlM_readPrincipals_accepted_iff {members : Json.Members Json} {lists : PrincipalLists} :
    (∃ others, members.foldlM (readPrincipals field) lists = .ok others) ↔
      ∀ member ∈ members, ∃ kind : PrincipalKind,
        kind.name = member.1 ∧ IsTexts (IsNameOf kind) member.2 := by
  -- Whatever was read before, the next member is read or not for itself.
  have named {kind : PrincipalKind} {names : List String} :
      (kind = .aws → ∀ name ∈ names, isAwsPrincipal name = true) ↔
        ∀ name ∈ names, IsNameOf kind name := by
    simp only [isAwsPrincipal_iff, IsNameOf]
    exact ⟨fun all name inside account => all account name inside,
      fun all account name inside => all name inside account⟩
  induction members generalizing lists with
  | nil => simp [pure, Except.pure]
  | cons member later ih =>
    simp only [List.foldlM_cons, bind_eq_ok_iff, readPrincipals_eq_ok_iff, named,
      List.forall_mem_cons, isTexts_iff]
    simp only [isTexts_iff] at ih
    constructor
    · rintro ⟨others, next, ⟨kind, names, known, texts, fitting, -⟩, behind⟩
      exact ⟨⟨kind, known, names, texts, fitting⟩, ih.mp ⟨others, behind⟩⟩
    · rintro ⟨⟨kind, known, names, texts, fitting⟩, each⟩
      obtain ⟨others, behind⟩ := ih.mpr each
      exact ⟨others, _, ⟨kind, names, known, texts, fitting, rfl⟩, behind⟩

/-- A block is read from the wildcard, and from an object that names some principals. -/
theorem readBlock_accepted_iff {value : Json} :
    (∃ block, readBlock field value = .ok block) ↔ IsBlock value := by
  constructor
  · intro ⟨block, accepted⟩
    unfold readBlock at accepted
    split at accepted
    · split at accepted
      · rename_i everyone
        rw [everyone]
        exact .everyone
      · cases accepted
    · split at accepted
      · cases accepted
      · rename_i members filled
        obtain ⟨lists, read, -⟩ := map_eq_ok_iff.mp accepted
        exact .listed (by simpa using filled) (foldlM_readPrincipals_accepted_iff.mp ⟨lists, read⟩)
    · cases accepted
  · intro grammatical
    cases grammatical with
    | everyone => exact ⟨.everyone, rfl⟩
    | listed filled each =>
      obtain ⟨lists, read⟩ := (@foldlM_readPrincipals_accepted_iff field _ .empty).mpr each
      exact ⟨.listed lists, by simp [readBlock, filled, read, Except.map]⟩

/-- No spelling is found where the element is missing. -/
theorem findSpelling_eq_none_iff_lacks {element : String} {members : Json.Members Json} :
    findSpelling element members = .ok none ↔ LacksElement element members := by
  rw [findSpelling_eq_ok_iff]
  rfl

/-- An element is there where a spelling is found that names what fits. -/
theorem exists_findSpelling_iff {fits : Json → Prop} {element : String}
    {members : Json.Members Json} :
    (∃ spelling, findSpelling element members = .ok (some spelling) ∧ fits spelling.named) ↔
      HasElement fits element members := by
  simp only [findSpelling_eq_ok_iff]
  constructor
  · intro ⟨spelling, ⟨here, there⟩, fitting⟩
    cases spelling with
    | only value => exact .covered here there fitting
    | allBut value => exact .leftOut there here fitting
  · intro there
    cases there with
    | covered there alone fitting => exact ⟨.only _, ⟨there, alone⟩, fitting⟩
    | leftOut there alone fitting => exact ⟨.allBut _, ⟨alone, there⟩, fitting⟩

/-- The principals of a spelling are read where what it names is a block. -/
theorem readSelection_accepted_iff {element : String} {spelling : Selection Json} :
    (∃ selection, readSelection readBlock element spelling = .ok selection) ↔
      IsBlock spelling.named := by
  cases spelling with
  | only value => simp [readSelection, map_eq_ok_iff, exists_comm, readBlock_accepted_iff,
      Selection.named]
  | allBut value => simp [readSelection, map_eq_ok_iff, exists_comm, readBlock_accepted_iff,
      Selection.named]

/-- The principal element is read where it is missing, or is there and names principals. -/
theorem readPrincipalElement_accepted_iff {members : Json.Members Json} :
    (∃ selection, readPrincipalElement members = .ok selection) ↔
      LacksElement "Principal" members ∨ HasElement IsBlock "Principal" members := by
  rw [← findSpelling_eq_none_iff_lacks, ← exists_findSpelling_iff, readPrincipalElement]
  rcases findSpelling "Principal" members with fault | _ | spelling
  · simp
  · simp
  · simp [map_eq_ok_iff, exists_comm, readSelection_accepted_iff]

/-- Values that suit an operator are what a value writes, one alone where presence is tested. -/
theorem isValues_iff {operator : Condition.Operator} {value : Json} :
    IsValues operator value ↔ ∃ texts, WritesValues value texts ∧
      (∀ text ∈ texts, IsExpectedBy operator text) ∧
        (operator = .null → ∃ text, texts = [text]) := by
  constructor
  · intro grammatical
    cases grammatical with
    | single scalar expected =>
      exact ⟨_, .single scalar, by simpa using expected, fun _ => ⟨_, rfl⟩⟩
    | list filled single each =>
      obtain ⟨texts, all⟩ := exists_forall₂_iff.mpr each
      obtain ⟨scalars, expected⟩ := forall₂_and_right_iff.mp all
      refine ⟨texts, .list filled scalars, expected, fun presence => ?_⟩
      exact List.length_eq_one_iff.mp (scalars.length_eq ▸ single presence)
  · intro ⟨texts, written, expected, single⟩
    cases written with
    | single scalar => exact .single scalar (by simpa using expected)
    | list filled scalars =>
      refine .list filled (fun presence => ?_) ?_
      · rw [scalars.length_eq]
        exact List.length_eq_one_iff.mpr (single presence)
      · exact exists_forall₂_iff.mp ⟨texts, forall₂_and_right_iff.mpr ⟨scalars, expected⟩⟩

/-- A leaf writes a suitable entry where its operator is a key, and its values suit that. -/
theorem exists_writesSuitable_iff {leaf : Leaf} :
    (∃ entry, WritesSuitable leaf entry) ↔
      ∃ key : OperatorKey, key.WrittenAs leaf.operator ∧ IsValues key.base leaf.values := by
  constructor
  · intro ⟨entry, written, suitable⟩
    exact ⟨entry.operator, written.operator,
      isValues_iff.mpr ⟨entry.values, written.values, suitable.readable, suitable.single⟩⟩
  · intro ⟨key, spelled, fitting⟩
    obtain ⟨texts, written, expected, single⟩ := isValues_iff.mp fitting
    exact ⟨⟨key, leaf.key, texts⟩, ⟨spelled, rfl, written⟩, ⟨expected, single⟩⟩

/-- A member of a condition has leaves that write suitable entries, if any. -/
theorem hasKeys_and_leaves_iff {member : String × Json} :
    (HasKeys member ∧ ∀ leaf ∈ leavesOf member, ∃ entry, WritesSuitable leaf entry) ↔
      ∃ (key : OperatorKey) (inner : Json.Members Json), key.WrittenAs member.1 ∧
        member.2 = .object inner ∧ inner ≠ [] ∧ ∀ leaf ∈ inner, IsValues key.base leaf.2 := by
  obtain ⟨text, value⟩ := member
  simp only [exists_writesSuitable_iff]
  constructor
  · rintro ⟨⟨inner, filled, rfl⟩, each⟩
    simp only [leavesOf, List.forall_mem_map] at each
    -- All leaves share the operator, of which the first one tells that it is a key.
    obtain ⟨first, later, rfl⟩ := List.exists_cons_of_ne_nil filled
    obtain ⟨key, spelled, -⟩ := each first List.mem_cons_self
    refine ⟨key, _, spelled, rfl, filled, fun leaf inside => ?_⟩
    obtain ⟨other, same, fitting⟩ := each leaf inside
    rwa [spelled.unique same]
  · rintro ⟨key, inner, spelled, rfl, filled, each⟩
    refine ⟨⟨inner, filled, rfl⟩, ?_⟩
    simp only [leavesOf, List.forall_mem_map]
    exact fun leaf inside => ⟨key, spelled, each leaf inside⟩

/-- A condition is read where it is missing, or an object of the grammar. -/
theorem readCondition_accepted_iff {value : Option Json} :
    (∃ condition, (readCondition index sid value).result = .ok condition) ↔
      ∀ there, value = some there → IsCondition there := by
  simp only [readCondition_eq_ok_iff]
  cases value with
  | none => exact iff_of_true ⟨none, .none, by simp⟩ (by simp)
  | some value =>
    simp only [Option.some.injEq, forall_eq']
    constructor
    · intro ⟨condition, written, suitable⟩
      obtain ⟨entries, rfl⟩ : ∃ entries, condition = some entries := by
        cases written
        exact ⟨_, rfl⟩
      obtain @⟨members, _, filled, each⟩ := Option.rel_some_some.mp written
      have all := exists_forall₂_iff.mp ⟨entries, forall₂_and_right_iff.mpr ⟨each, suitable⟩⟩
      refine .object fun member inside => hasKeys_and_leaves_iff.mp ⟨filled member inside, ?_⟩
      exact fun leaf here => all leaf (List.mem_flatMap.mpr ⟨member, inside, here⟩)
    · rintro @⟨members, each⟩
      simp only [← hasKeys_and_leaves_iff] at each
      have all : ∀ leaf ∈ leaves members, ∃ entry, WritesSuitable leaf entry := by
        intro leaf inside
        obtain ⟨member, here, found⟩ := List.mem_flatMap.mp inside
        exact (each member here).2 leaf found
      obtain ⟨entries, written⟩ := exists_forall₂_iff.mpr all
      obtain ⟨written, suitable⟩ := forall₂_and_right_iff.mp written
      exact ⟨some entries, .some (.object (fun member inside => (each member inside).1) written),
        suitable⟩

/-- An effect is read where it is one of the two that there are. -/
theorem readEffect_accepted_iff {members : Json.Members Json} :
    (∃ effect, readEffect members = .ok effect) ↔
      Json.find? "Effect" members = some (.string "Allow") ∨
        Json.find? "Effect" members = some (.string "Deny") := by
  simp only [readEffect_eq_ok_iff]
  constructor
  · intro ⟨effect, there⟩
    cases effect with
    | allow => exact Or.inl there
    | deny => exact Or.inr there
  · intro either
    cases either with
    | inl allows => exact ⟨.allow, allows⟩
    | inr denies => exact ⟨.deny, denies⟩

/-- A statement is read from an object of the grammar, at whatever place. -/
theorem readStatement_accepted_iff {index : Nat} {value : Json} :
    (∃ statement, (readStatement index value).result = .ok statement) ↔
      ∃ members, value = .object members ∧ IsStatement members := by
  simp only [readStatement_eq_ok_iff, readSid_eq_ok_iff, checkElements_eq_ok_iff]
  constructor
  · intro ⟨statement, members, object, sid, known, effect, action, resource, principal, condition,
      _⟩
    exact ⟨members, object, known, isOptionalText_iff.mpr ⟨_, sid⟩,
      readEffect_accepted_iff.mp ⟨_, effect⟩,
      (readPatternElement_accepted_iff fun _ => isActionPattern_iff).mp ⟨_, action⟩,
      (readPatternElement_accepted_iff fun _ => isResourcePattern_iff).mp ⟨_, resource⟩,
      readPrincipalElement_accepted_iff.mp ⟨_, principal⟩,
      readCondition_accepted_iff.mp ⟨_, condition⟩⟩
  · intro ⟨members, object, grammatical⟩
    obtain ⟨sid, sidWritten⟩ := isOptionalText_iff.mp grammatical.sid
    obtain ⟨effect, effectRead⟩ := readEffect_accepted_iff.mpr grammatical.effect
    obtain ⟨action, actionRead⟩ :=
      (readPatternElement_accepted_iff fun _ => isActionPattern_iff).mpr grammatical.action
    obtain ⟨resource, resourceRead⟩ :=
      (readPatternElement_accepted_iff fun _ => isResourcePattern_iff).mpr grammatical.resource
    obtain ⟨principal, principalRead⟩ :=
      readPrincipalElement_accepted_iff.mpr grammatical.principal
    obtain ⟨condition, conditionRead⟩ := readCondition_accepted_iff.mpr grammatical.condition
    exact ⟨⟨index, sid, effect, action, resource, principal, condition⟩, members, object,
      sidWritten, grammatical.known, effectRead, actionRead, resourceRead, principalRead,
      conditionRead, rfl⟩

/-- Statements are listed and read where a value is one or a list of them. -/
theorem statementsOf_accepted_iff {members : Json.Members Json} :
    (∃ values, statementsOf members = .ok values ∧
        ∀ value ∈ values, ∃ statement, (readStatement 0 value).result = .ok statement) ↔
      ∃ value, Json.find? "Statement" members = some value ∧ IsStatements value := by
  simp only [statementsOf_eq_ok_iff, readStatement_accepted_iff]
  constructor
  · rintro ⟨values, ⟨value, there, ⟨members, rfl, rfl⟩ | rfl⟩, each⟩
    · obtain ⟨_, same, grammatical⟩ := each _ (List.mem_singleton.mpr rfl)
      cases same
      exact ⟨_, there, .single grammatical⟩
    · exact ⟨_, there, .list each⟩
  · intro ⟨value, there, grammatical⟩
    cases grammatical with
    | single statement => exact ⟨_, ⟨_, there, Or.inl ⟨_, rfl, rfl⟩⟩, by simpa using statement⟩
    | list each => exact ⟨_, ⟨_, there, Or.inr rfl⟩, each⟩

/-- A version is read where it is missing or one of the two that exist. -/
theorem readVersion_accepted_iff {members : Json.Members Json} :
    (∃ version, readVersion members = .ok version) ↔
      ∀ value, Json.find? "Version" members = some value →
        value = .string "2012-10-17" ∨ value = .string "2008-10-17" := by
  simp only [readVersion_eq_ok_iff]
  cases Json.find? "Version" members with
  | none => exact iff_of_true ⟨_, Or.inr ⟨rfl, rfl⟩, by decide⟩ (by simp)
  | some value =>
    simp only [Option.some.injEq, forall_eq', reduceCtorEq, false_and, or_false]
    constructor
    · rintro ⟨version, rfl, published⟩
      simpa [Fault.versions, or_comm] using published
    · rintro (rfl | rfl)
      · exact ⟨_, rfl, by decide⟩
      · exact ⟨_, rfl, by decide⟩

end Reader

/--
Reading accepts the documents of the grammar and no other values.

A document that is read also passes the rules for building one from its parts, which are stated
apart from the reading, and is the one that is built.
-/
theorem Document.accepted_iff_isDocument {tree : Json} :
    ((∃ document, (Document.read tree).result = .ok document) ↔ IsDocument tree) ∧
      ∀ document, (Document.read tree).result = .ok document → document.Rebuilds := by
  refine ⟨?_, fun document accepted => rebuilds_of_read accepted⟩
  simp only [accepted_iff, Reader.readOutline_eq_ok_iff, Reader.unknownNames_eq_nil_iff,
    Reader.readId_eq_ok_iff]
  constructor
  · rintro ⟨outline, ⟨members, rfl, known, version, id, listed⟩, each⟩
    exact .object known (Reader.readVersion_accepted_iff.mp ⟨_, version⟩)
      (isOptionalText_iff.mpr ⟨_, id⟩) (Reader.statementsOf_accepted_iff.mp ⟨_, listed, each⟩)
  · intro ⟨known, version, id, statement⟩
    obtain ⟨version, versionRead⟩ := Reader.readVersion_accepted_iff.mpr version
    obtain ⟨id, idWritten⟩ := isOptionalText_iff.mp id
    obtain ⟨values, listed, each⟩ := Reader.statementsOf_accepted_iff.mpr statement
    exact ⟨⟨version, id, values⟩, ⟨_, rfl, known, versionRead, idWritten, listed⟩, each⟩

/-- A policy whose only statement leaves out principals and actions, with two kinds of scalars. -/
def partnerTree : Json :=
  -- The statement stands without a list, and so do some of the texts in it.
  .object [("Version", .string "2012-10-17"), ("Id", .null), ("Statement", .object [
    ("Effect", .string "Deny"),
    ("NotPrincipal", .object [("AWS", .array [.string "123456789012", .string "*"]),
      ("Service", .string "lambda.amazonaws.com")]),
    ("NotAction", .string "s3:*"),
    ("Resource", .array [.string "*", .string "arn:aws:s3:::b/*"]),
    ("Condition", .object [("NumericLessThanIfExists", .object [("age", .int 5)]),
      ("Null", .object [("mfa", .array [.bool true])])])])]

/-- The document of that policy. -/
def partnerDocument : Document :=
  -- Single texts have become lists, and scalars texts.
  ⟨"2012-10-17", none,
    [⟨0, none, .deny, .allBut ["s3:*"], .only ["*", "arn:aws:s3:::b/*"],
      some (.allBut (.listed ⟨["123456789012", "*"], [], [], ["lambda.amazonaws.com"]⟩)),
      some [⟨⟨"NumericLessThanIfExists", .numericLessThan, true, none⟩, "age", ["5"]⟩,
        ⟨⟨"Null", .null, false, none⟩, "mfa", ["true"]⟩]⟩]⟩

/-- The policy is one of the grammar, and its document is built from its parts. -/
theorem isDocument_partnerTree :
    (Document.read partnerTree).result = .ok partnerDocument ∧ IsDocument partnerTree ∧
      partnerDocument.Rebuilds := by
  have accepted : (Document.read partnerTree).result = .ok partnerDocument :=
    eq_ok_of_toOption (by decide +kernel)
  exact ⟨accepted, Document.accepted_iff_isDocument.1.mp ⟨_, accepted⟩,
    Document.accepted_iff_isDocument.2 _ accepted⟩

end AccessPolicy.Policy
