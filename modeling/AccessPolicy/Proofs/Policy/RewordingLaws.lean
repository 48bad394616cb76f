import AccessPolicy.Proofs.Policy.Image
import AccessPolicy.Proofs.Policy.Restating
import AccessPolicy.Proofs.Policy.Rewording

/-! What a rewritten tree writes says the same as what was written before. -/

namespace AccessPolicy.Policy

open Json (OrReordered KeptOr MemberChanged)

/-- Moving items moves what they lead to, which has the same members. -/
theorem exists_of_moved {α β : Type} {holds : α → β → Prop} {items others : List α}
    {results : List β} (perm : items.Perm others) (all : List.Forall₂ holds items results) :
    ∃ nexts, List.Forall₂ holds others nexts ∧ SameMembers results nexts := by
  obtain ⟨nexts, related, moved⟩ := List.perm_comp_forall₂ perm.symm all
  exact ⟨nexts, related, .of_perm moved.symm⟩

/-- Repeating an item repeats what it leads to, which is no new member. -/
theorem exists_of_repeated {α β : Type} {holds : α → β → Prop} {items : List α} {item : α}
    {results : List β} (there : item ∈ items) (all : List.Forall₂ holds items results) :
    ∃ nexts, List.Forall₂ holds (item :: items) nexts ∧ SameMembers results nexts := by
  obtain ⟨result, inside, related⟩ := exists_of_mem_left all there
  exact ⟨result :: results, .cons related all, .of_repeated inside⟩

/-- An array writes texts where it has items, each of which is a text. -/
theorem writesTexts_array_iff {items : List Json} {texts : List String} :
    WritesTexts (.array items) texts ↔
      items ≠ [] ∧ List.Forall₂ (fun item text => item = .string text) items texts := by
  rw [forall₂_eq_map_iff]
  constructor
  · intro written
    generalize shape : Json.array items = value at written
    cases written with
    | single => cases shape
    | list filled =>
      cases shape
      exact ⟨by simpa using filled, rfl⟩
  · rintro ⟨filled, rfl⟩
    exact .list (by simpa using filled)

/-- An array writes values where it has items, each of which is a scalar. -/
theorem writesValues_array_iff {items : List Json} {texts : List String} :
    WritesValues (.array items) texts ↔ items ≠ [] ∧ List.Forall₂ WritesScalar items texts := by
  constructor
  · intro written
    cases written with
    | single scalar => cases scalar
    | list filled each => exact ⟨filled, each⟩
  · intro ⟨filled, each⟩
    exact .list filled each

/-- Rewritten texts have the same members. -/
theorem exists_of_rewordsTexts {value other : Json} (changed : OrReordered RewordsTexts value other)
    {texts : List String} (written : WritesTexts value texts) :
    ∃ others, WritesTexts other others ∧ SameMembers texts others := by
  rcases changed with reordered | changed
  · -- No object is within texts.
    cases written with
    | single => cases reordered
    | list =>
      obtain ⟨item, inside, other, within⟩ := Json.exists_of_reordered_array reordered
      obtain ⟨text, -, rfl⟩ := List.mem_map.mp inside
      cases within
  · cases changed with
    | wrapped text =>
      cases written
      exact ⟨[text], writesTexts_array_iff.mpr ⟨by simp, by simp⟩, .refl _⟩
    | unwrapped text =>
      obtain ⟨-, each⟩ := writesTexts_array_iff.mp written
      rw [forall₂_eq_map_iff] at each
      obtain ⟨_, rfl, same⟩ := List.map_eq_singleton_iff.mp each.symm
      cases same
      exact ⟨[text], .single text, .refl _⟩
    | moved perm =>
      obtain ⟨filled, each⟩ := writesTexts_array_iff.mp written
      obtain ⟨others, eachToo, same⟩ := exists_of_moved perm each
      refine ⟨others, writesTexts_array_iff.mpr ⟨fun none => filled ?_, eachToo⟩, same⟩
      exact (none ▸ perm).eq_nil
    | repeated there =>
      obtain ⟨-, each⟩ := writesTexts_array_iff.mp written
      obtain ⟨others, eachToo, same⟩ := exists_of_repeated there each
      exact ⟨others, writesTexts_array_iff.mpr ⟨by simp, eachToo⟩, same⟩

/-- What is written out writes the same text as before. -/
theorem WritesOut.scalar {value other : Json} (out : WritesOut value other) {text : String}
    (scalar : WritesScalar value text) : WritesScalar other text := by
  cases out with
  | truth => cases scalar <;> exact .text _
  | whole =>
    cases scalar
    exact .text _

/-- Items of which one is written out write the same texts as before. -/
theorem forall₂_of_writtenItem {earlier later : List Json} {value other : Json}
    (out : WritesOut value other) {texts : List String}
    (each : List.Forall₂ WritesScalar (earlier ++ value :: later) texts) :
    List.Forall₂ WritesScalar (earlier ++ other :: later) texts := by
  obtain ⟨front, back, rfl, before, behind⟩ := forall₂_append_left_iff.mp each
  cases behind with
  | cons scalar rest =>
    exact forall₂_append_left_iff.mpr ⟨front, _, rfl, before, .cons (out.scalar scalar) rest⟩

/-- No object is within a scalar. -/
theorem WritesScalar.not_reordered {value other : Json} {text : String}
    (scalar : WritesScalar value text) : ¬ value.Reordered other := by
  intro reordered
  cases scalar <;> cases reordered

/-- A scalar writes the one value that it is. -/
theorem WritesScalar.values_iff {value : Json} {text : String} (scalar : WritesScalar value text)
    {texts : List String} : WritesValues value texts ↔ texts = [text] := by
  constructor
  · intro written
    cases written with
    | single other => rw [WritesScalar.unique other scalar]
    | list => cases scalar
  · intro same
    rw [same]
    exact .single scalar

/-- Rewritten values have the same members, and those of the test for presence are the same. -/
theorem exists_of_rewordsValues {operator : String} {value other : Json}
    (changed : OrReordered (RewordsValues operator) value other) {texts : List String}
    (written : WritesValues value texts) :
    ∃ others, WritesValues other others ∧ SameMembers texts others ∧
      (operator = "Null" → texts = others) := by
  rcases changed with reordered | changed
  · cases written with
    | single scalar => exact absurd reordered scalar.not_reordered
    | list _ each =>
      obtain ⟨item, inside, other, within⟩ := Json.exists_of_reordered_array reordered
      obtain ⟨text, -, scalar⟩ := exists_of_mem_left each inside
      exact absurd within scalar.not_reordered
  · cases changed with
    | wrapped scalar =>
      obtain rfl := scalar.values_iff.mp written
      exact ⟨_, writesValues_array_iff.mpr ⟨by simp, .cons scalar .nil⟩, .refl _, fun _ => rfl⟩
    | unwrapped scalar =>
      obtain ⟨-, each⟩ := writesValues_array_iff.mp written
      have same : texts = [_] := WritesScalar.unique.forall₂ each (.cons scalar .nil)
      subst same
      exact ⟨_, .single scalar, .refl _, fun _ => rfl⟩
    | written out =>
      cases written with
      | single scalar => exact ⟨_, .single (out.scalar scalar), .refl _, fun _ => rfl⟩
      | list => cases out
    | writtenItem out =>
      obtain ⟨-, each⟩ := writesValues_array_iff.mp written
      have eachToo := forall₂_of_writtenItem out each
      exact ⟨texts, writesValues_array_iff.mpr ⟨by simp, eachToo⟩, .refl _, fun _ => rfl⟩
    | moved comparing perm =>
      obtain ⟨filled, each⟩ := writesValues_array_iff.mp written
      obtain ⟨others, eachToo, same⟩ := exists_of_moved perm each
      refine ⟨others, writesValues_array_iff.mpr ⟨fun none => filled ?_, eachToo⟩, same,
        fun presence => absurd presence comparing⟩
      exact (none ▸ perm).eq_nil
    | repeated comparing there =>
      obtain ⟨-, each⟩ := writesValues_array_iff.mp written
      obtain ⟨others, eachToo, same⟩ := exists_of_repeated there each
      exact ⟨others, writesValues_array_iff.mpr ⟨by simp, eachToo⟩, same,
        fun presence => absurd presence comparing⟩

/-- A leaf keeps its operator and its key, and its values are kept or rewritten. -/
structure RewordsLeaf (leaf other : Leaf) : Prop where
  operator : leaf.operator = other.operator
  key : leaf.key = other.key
  values : leaf.values = other.values ∨
    OrReordered (RewordsValues leaf.operator) leaf.values other.values

/-- A rewritten leaf writes an entry that asks for the same. -/
theorem exists_of_rewordsLeaf {leaf other : Leaf} (reworded : RewordsLeaf leaf other)
    {entry : Condition.Entry} (written : WritesEntry leaf entry) :
    ∃ again, WritesEntry other again ∧ entry.Alike again := by
  obtain ⟨others, writtenToo, same, kept⟩ : ∃ others, WritesValues other.values others ∧
      SameMembers entry.values others ∧ (leaf.operator = "Null" → entry.values = others) := by
    rcases reworded.values with same | changed
    · exact ⟨entry.values, same ▸ written.values, .refl _, fun _ => rfl⟩
    · exact exists_of_rewordsValues changed written.values
  refine ⟨⟨entry.operator, entry.key, others⟩, ⟨?_, ?_, writtenToo⟩, ⟨rfl, rfl, same, ?_⟩⟩
  · exact reworded.operator ▸ written.operator
  · exact written.key.trans reworded.key
  · exact fun presence => kept (written.operator.eq_null presence)

/-- Rewriting a member of a condition rearranges its leaves, each of which is kept or rewritten. -/
theorem rearranged_leavesOf {member other : String × Json} (filled : HasKeys member)
    (changed : KeptOr (fun operator => OrReordered (RewordsOperator operator)) member other) :
    HasKeys other ∧ Rearranged RewordsLeaf (leavesOf member) (leavesOf other) := by
  obtain ⟨operator, value⟩ := member
  obtain ⟨operator', value'⟩ := other
  obtain ⟨inner, some, object⟩ := filled
  obtain ⟨same, changed⟩ := changed
  simp only at object same changed
  subst object same
  rcases changed with rfl | changed
  · exact ⟨⟨inner, some, rfl⟩, .of_perm (fun _ => ⟨rfl, rfl, Or.inl rfl⟩) (.refl _)⟩
  · obtain ⟨others, rfl, moved⟩ := Json.exists_rearranged changed
    refine ⟨⟨others, fun none => some ?_, rfl⟩, ?_⟩
    · exact moved.eq_nil none
    · exact moved.map fun leaf other kept => ⟨rfl, kept.1, kept.2⟩

/-- A rewritten condition writes entries that ask for the same, in some order. -/
theorem exists_of_rewordsCondition {value other : Json}
    (changed : OrReordered RewordsCondition value other) {entries : List Condition.Entry}
    (written : WritesCondition value entries) :
    ∃ others, WritesCondition other others ∧ Rearranged Condition.Entry.Alike entries others := by
  obtain ⟨filled, each⟩ := written
  obtain ⟨others, rfl, moved⟩ := Json.exists_rearranged changed
  have filledToo : ∀ member ∈ others, HasKeys member := by
    intro member inside
    obtain ⟨old, there, kept⟩ := moved.exists_of_mem_back inside
    exact (rearranged_leavesOf (filled old there) kept).1
  have found : Rearranged RewordsLeaf (leaves _) (leaves others) :=
    moved.flatMap fun member inside _ kept => (rearranged_leavesOf (filled member inside) kept).2
  obtain ⟨again, eachToo, same⟩ : ∃ again, List.Forall₂ WritesEntry (leaves others) again ∧
      Rearranged Condition.Entry.Alike entries again :=
    found.transport each fun _ _ _ reworded => exists_of_rewordsLeaf reworded
  exact ⟨again, .object filledToo eachToo, same⟩

/-- Rewritten principals of a kind have the same members, where any are written. -/
theorem exists_names {value other : Option Json}
    (changed : Option.Rel (fun value other => value = other ∨ OrReordered RewordsTexts value other)
      value other) {names : List String} (written : WritesNames value names) :
    ∃ others, WritesNames other others ∧ SameMembers names others := by
  cases written with
  | missing =>
    cases changed
    exact ⟨[], .missing, .refl _⟩
  | there texts =>
    obtain ⟨again, rfl, same | changed⟩ := rel_some_left_iff.mp changed
    · exact ⟨names, .there (same ▸ texts), .refl _⟩
    · obtain ⟨others, textsToo, same⟩ := exists_of_rewordsTexts changed texts
      exact ⟨others, .there textsToo, same⟩

/-- A rewritten block names the same principals. -/
theorem exists_of_rewordsBlock {value other : Json} (distinct : value.Distinct)
    (changed : OrReordered RewordsBlock value other) {block : PrincipalBlock}
    (written : WritesBlock value block) :
    ∃ again, WritesBlock other again ∧ block.Restates again := by
  cases written with
  | everyone =>
    -- The wildcard is no object.
    rcases changed with reordered | changed
    · cases reordered
    · cases changed
  | listed filled known each =>
    obtain ⟨others, rfl, moved⟩ := Json.exists_rearranged changed
    have once := (Json.distinct_object_iff.mp distinct).1
    have found (kind : PrincipalKind) :=
      exists_names (Json.find?_of_rearranged moved once kind.name) (each kind)
    choose names written same using found
    have listed (kind : PrincipalKind) : names kind = PrincipalLists.of
        ⟨names .aws, names .canonicalUser, names .federated, names .service⟩ kind := by
      cases kind <;> rfl
    refine ⟨.listed _, .listed (fun none => filled ?_) (fun name inside => known name ?_)
      fun kind => listed kind ▸ written kind, .listed fun kind => listed kind ▸ same kind⟩
    · exact moved.eq_nil none
    · exact (Json.names_perm_of_rearranged moved).mem_iff.mpr inside

section Selection

variable {α : Type} {writes : Json → α → Prop} {same : α → α → Prop} {change : Json → Json → Prop}

/-- What a kept or changed value writes says the same. -/
theorem exists_of_kept {left right : Option Json} (refl : ∀ named, same named named)
    (changed : Option.Rel (fun value other => value = other ∨ change value other) left right)
    (keeps : ∀ value other named, left = some value → change value other → writes value named →
      ∃ again, writes other again ∧ same named again)
    {value : Json} {named : α} (there : left = some value) (written : writes value named) :
    ∃ other again, right = some other ∧ writes other again ∧ same named again := by
  obtain ⟨other, found, kept⟩ := rel_some_left_iff.mp (there ▸ changed)
  rcases kept with rfl | changed
  · exact ⟨value, named, found, written, refl named⟩
  · obtain ⟨again, writtenToo, alike⟩ := keeps value other named there changed written
    exact ⟨other, again, found, writtenToo, alike⟩

/-- A selection whose member is kept or changed is meant in the same way and says the same. -/
theorem exists_selection {element : String} {members others : Json.Members Json}
    (refl : ∀ named, same named named)
    (covered : Option.Rel (fun value other => value = other ∨ change value other)
      (Json.find? element members) (Json.find? element others))
    (leftOut : Option.Rel (fun value other => value = other ∨ change value other)
      (Json.find? ("Not" ++ element) members) (Json.find? ("Not" ++ element) others))
    (keeps : ∀ member ∈ members, ∀ other named, change member.2 other → writes member.2 named →
      ∃ again, writes other again ∧ same named again)
    {selection : Option (Selection α)}
    (written : WritesSelection writes element members selection) :
    ∃ again, WritesSelection writes element others again ∧
      Option.Rel (Selection.Restates same) selection again := by
  have keepsFound (name : String) : ∀ value other named, Json.find? name members = some value →
      change value other → writes value named → ∃ again, writes other again ∧ same named again :=
    fun value other named there => keeps _ (Json.mem_of_find? there) other named
  -- A name that was missing is missing still, and so the selection is meant in the same way.
  match selection with
  | none =>
    obtain ⟨here, there⟩ := writesSelection_none_iff.mp written
    have noneHere := rel_none_left_iff.mp (here ▸ covered)
    have noneThere := rel_none_left_iff.mp (there ▸ leftOut)
    exact ⟨none, writesSelection_none_iff.mpr ⟨noneHere, noneThere⟩, .none⟩
  | some (.only named) =>
    obtain ⟨⟨value, here, writing⟩, there⟩ := writesSelection_only_iff.mp written
    obtain ⟨other, again, hereToo, writingToo, alike⟩ :=
      exists_of_kept refl covered (keepsFound _) here writing
    have noneThere := rel_none_left_iff.mp (there ▸ leftOut)
    exact ⟨some (.only again),
      writesSelection_only_iff.mpr ⟨⟨other, hereToo, writingToo⟩, noneThere⟩, .some (.only alike)⟩
  | some (.allBut named) =>
    obtain ⟨here, value, there, writing⟩ := writesSelection_allBut_iff.mp written
    obtain ⟨other, again, thereToo, writingToo, alike⟩ :=
      exists_of_kept refl leftOut (keepsFound _) there writing
    have noneHere := rel_none_left_iff.mp (here ▸ covered)
    exact ⟨some (.allBut again),
      writesSelection_allBut_iff.mpr ⟨noneHere, other, thereToo, writingToo⟩,
      .some (.allBut alike)⟩

end Selection

/-- A condition that is kept or rewritten writes entries that ask for the same, if any. -/
theorem exists_condition {left right : Option Json}
    (changed : Option.Rel
      (fun value other => value = other ∨ OrReordered RewordsCondition value other) left right)
    {condition : Option (List Condition.Entry)}
    (written : Option.Rel WritesCondition left condition) :
    ∃ again, Option.Rel WritesCondition right again ∧
      Rearranged Condition.Entry.Alike (condition.getD []) (again.getD []) := by
  have refl (entries : List Condition.Entry) : Rearranged Condition.Entry.Alike entries entries :=
    .of_perm Condition.Entry.Alike.refl (.refl _)
  cases written with
  | none => exact ⟨none, rel_none_right_iff.mpr (rel_none_left_iff.mp changed), refl []⟩
  | some writing =>
    obtain ⟨other, again, rfl, writingToo, alike⟩ := exists_of_kept refl changed
      (fun _ _ _ _ changed => exists_of_rewordsCondition changed) rfl writing
    exact ⟨some again, .some writingToo, alike⟩

/-- No object is within what is null or a text. -/
theorem WritesOptional.not_reordered {value other : Json} {text : Option String}
    (written : WritesOptional (some value) text) : ¬ value.Reordered other := by
  intro reordered
  cases written <;> cases reordered

/-- The members of a statement are rearranged, and each is kept, reordered or rewritten. -/
def RewordsMembers : Json.Members Json → Json.Members Json → Prop :=
  -- The name of a member tells which changes there are.
  Rearranged (KeptOr fun name => OrReordered (RewordsElement name))

/-- A rewritten statement says the same at the same place. -/
theorem exists_of_rewordsMembers {members others : Json.Members Json}
    (distinct : (Json.object members).Distinct) (moved : RewordsMembers members others)
    {statement : Statement} (written : WritesStatement members statement) :
    ∃ again, WritesStatement others again ∧ statement.Restates again := by
  obtain ⟨once, each⟩ := Json.distinct_object_iff.mp distinct
  have found := Json.find?_of_rearranged moved once
  -- A text, and what is null, can be changed in no way.
  have sid : Json.find? "Sid" others = Json.find? "Sid" members :=
    Json.find?_eq_of_plain moved once (fun _ _ there => (there ▸ written.sid).not_reordered) nofun
  have effect : Json.find? "Effect" others = Json.find? "Effect" members := by
    refine Json.find?_eq_of_plain moved once (fun value other there => ?_) nofun
    rw [Option.some.inj (there.symm.trans written.effect)]
    exact Json.not_reordered_string
  obtain ⟨_, actionWritten, action⟩ := exists_selection SameMembers.refl (found "Action")
    (found "NotAction") (fun _ _ _ _ changed => exists_of_rewordsTexts changed) written.action
  obtain ⟨_, resourceWritten, resource⟩ := exists_selection SameMembers.refl (found "Resource")
    (found "NotResource") (fun _ _ _ _ changed => exists_of_rewordsTexts changed) written.resource
  obtain ⟨principal', principalWritten, principal⟩ := exists_selection PrincipalBlock.Restates.refl
    (found "Principal") (found "NotPrincipal")
    (fun member inside _ _ changed => exists_of_rewordsBlock (each member inside) changed)
    written.principal
  obtain ⟨action', rfl, actionAlike⟩ := rel_some_left_iff.mp action
  obtain ⟨resource', rfl, resourceAlike⟩ := rel_some_left_iff.mp resource
  obtain ⟨condition', conditionWritten, condition⟩ := exists_condition (found "Condition")
    written.condition
  have named := (Json.names_perm_of_rearranged moved).symm.subset
  exact ⟨⟨statement.index, statement.sid, statement.effect, action', resource', principal',
      condition'⟩,
    ⟨fun name inside => written.known name (named inside), sid ▸ written.sid,
      effect ▸ written.effect, actionWritten, resourceWritten, principalWritten, conditionWritten⟩,
    ⟨rfl, rfl, rfl, actionAlike, resourceAlike, principal, condition⟩⟩

/-- A member list is a rearrangement of itself. -/
theorem RewordsMembers.refl (members : Json.Members Json) : RewordsMembers members members :=
  .of_perm (fun _ => ⟨rfl, Or.inl rfl⟩) (.refl _)

/-- A statement that is kept, reordered or rewritten is an object of rearranged members. -/
theorem exists_members {members : Json.Members Json} {value : Json}
    (changed : .object members = value ∨
      OrReordered (MemberChanged RewordsElement) (.object members) value) :
    ∃ others, value = .object others ∧ RewordsMembers members others := by
  rcases changed with rfl | changed
  · exact ⟨members, rfl, .refl members⟩
  · exact Json.exists_rearranged changed

/-- Statements that are kept, reordered or rewritten are objects of rearranged members. -/
theorem exists_objects {objects : List (Json.Members Json)} {items : List Json}
    (changed : List.Forall₂ (fun value other => value = other ∨
      OrReordered (MemberChanged RewordsElement) value other) (objects.map .object) items) :
    ∃ others, items = others.map .object ∧ List.Forall₂ RewordsMembers objects others := by
  rw [List.forall₂_map_left_iff] at changed
  exact exists_map_of_forall₂ (changed.imp fun _ _ => exists_members)

/-- Rewritten statements are as many objects of rearranged members, in the same order. -/
theorem exists_of_rewordsStatements {value other : Json}
    (changed : OrReordered RewordsStatements value other) {objects : List (Json.Members Json)}
    (listed : ListsStatements value objects) :
    ∃ others, ListsStatements other others ∧ List.Forall₂ RewordsMembers objects others := by
  have refl (objects : List (Json.Members Json)) : List.Forall₂ RewordsMembers objects objects :=
    List.forall₂_same.mpr fun members _ => .refl members
  rcases changed with reordered | changed
  · cases listed with
    | single members =>
      obtain ⟨others, rfl, moved⟩ := exists_members (Or.inr (Or.inl reordered))
      exact ⟨[others], .single others, .cons moved .nil⟩
    | list objects =>
      obtain ⟨items, rfl, kept⟩ := Json.exists_items_of_reordered reordered
      obtain ⟨others, rfl, moved⟩ := exists_objects
        (kept.imp fun _ _ same => same.imp_right Or.inl)
      exact ⟨others, .list others, moved⟩
  · cases changed with
    | wrapped members =>
      cases listed
      exact ⟨[members], .list [members], refl _⟩
    | unwrapped members =>
      obtain rfl := ListsStatements.unique listed (.list [members])
      exact ⟨[members], .single members, refl _⟩
    | single element =>
      cases listed with
      | single members =>
        obtain ⟨others, rfl, moved⟩ := exists_members (Or.inr (Or.inr element))
        exact ⟨[others], .single others, .cons moved .nil⟩
      | list => cases element
    | @item earlier later value other element =>
      have items := @forall₂_of_changed _ (OrReordered (MemberChanged RewordsElement)) earlier later
        value other (Or.inr element)
      have same : earlier ++ value :: later = objects.map .object := by
        simpa using listsStatements_iff.mp listed
      rw [same] at items
      obtain ⟨others, objectsToo, moved⟩ := exists_objects items
      exact ⟨others, objectsToo ▸ .list others, moved⟩

/-- Rewritten statements say the same one by one, at the same places. -/
theorem exists_statements {place : Nat} {objects others : List (Json.Members Json)}
    (distinct : ∀ members ∈ objects, (Json.object members).Distinct)
    (moved : List.Forall₂ RewordsMembers objects others) {statements : List Statement}
    (written : WritesStatements place objects statements) :
    ∃ again, WritesStatements place others again ∧
      List.Forall₂ Statement.Restates statements again := by
  induction moved generalizing place statements with
  | nil =>
    cases written
    exact ⟨[], .nil place, .nil⟩
  | cons first _ ih =>
    obtain ⟨distinctFirst, distinctLater⟩ := List.forall_mem_cons.mp distinct
    cases written with
    | cons here writing behind =>
      obtain ⟨statement, writingToo, same⟩ := exists_of_rewordsMembers distinctFirst first writing
      obtain ⟨later, behindToo, sameLater⟩ := ih distinctLater behind
      exact ⟨statement :: later, .cons (same.index ▸ here) writingToo behindToo,
        .cons same sameLater⟩

/-- Statements that are listed by a value without repeated names have none either. -/
theorem distinct_of_listsStatements {value : Json} {objects : List (Json.Members Json)}
    (listed : ListsStatements value objects) (distinct : value.Distinct) :
    ∀ members ∈ objects, (Json.object members).Distinct := by
  cases listed with
  | single members => simpa using distinct
  | list objects => simpa [Json.distinct_array_iff] using distinct

/-- A rewritten tree writes a document that says the same. -/
theorem exists_of_rewords {tree other : Json} (distinct : tree.Distinct)
    (reworded : Rewords tree other) {document : Document} (written : WritesDocument tree document) :
    ∃ again, WritesDocument other again ∧ document.Restates again := by
  obtain @⟨members, _, value, objects, known, version, id, there, listed, statements⟩ := written
  obtain ⟨others, rfl, moved⟩ := Json.exists_rearranged reworded
  obtain ⟨once, each⟩ := Json.distinct_object_iff.mp distinct
  have found := Json.find?_of_rearranged moved once
  -- Neither the version nor the identifier can be changed in any way.
  have versionToo : Json.find? "Version" others = Json.find? "Version" members := by
    refine Json.find?_eq_of_plain moved once (fun value other there => ?_) nofun
    rcases version with text | ⟨absent, -⟩
    · rw [Option.some.inj (there.symm.trans text)]
      exact Json.not_reordered_string
    · cases there.symm.trans absent
  have idToo : Json.find? "Id" others = Json.find? "Id" members :=
    Json.find?_eq_of_plain moved once (fun _ _ there => (there ▸ id).not_reordered) nofun
  obtain ⟨valueToo, thereToo, objectsToo, listedToo, rearranged⟩ : ∃ valueToo,
      Json.find? "Statement" others = some valueToo ∧ ∃ objectsToo,
        ListsStatements valueToo objectsToo ∧ List.Forall₂ RewordsMembers objects objectsToo := by
    obtain ⟨valueToo, thereToo, rfl | changed⟩ := rel_some_left_iff.mp (there ▸ found "Statement")
    · exact ⟨value, thereToo, objects, listed, List.forall₂_same.mpr fun members _ => .refl members⟩
    · exact ⟨valueToo, thereToo, exists_of_rewordsStatements changed listed⟩
  have apart := distinct_of_listsStatements listed (each _ (Json.mem_of_find? there))
  obtain ⟨again, writtenToo, same⟩ := exists_statements apart rearranged statements
  have named := (Json.names_perm_of_rearranged moved).symm.subset
  exact ⟨⟨document.version, document.id, again⟩,
    .object (fun name inside => known name (named inside)) (versionToo ▸ version) (idToo ▸ id)
      thereToo listedToo writtenToo, ⟨rfl, same⟩⟩

end AccessPolicy.Policy
