import AccessPolicy.Proofs.Policy.DocumentReader

/-! Documents that were read pass the rules for building one from its fields, and stay the same. -/

namespace AccessPolicy

/-- A text of a record, or null. -/
def Json.ofText? : Option String → Json
  -- An empty text is there.
  | none => .null
  | some text => .string text

/-- A list of texts of a record, or null. -/
def Json.ofTexts? : Option (List String) → Json
  -- An empty list is there.
  | none => .null
  | some texts => .array (texts.map .string)

namespace Checked

/-- A text that may be null is found as it was put. -/
theorem optionalText_ofText? (name : String) (text : Option String) :
    optionalText name (some (Json.ofText? text)) = .ok text := by
  cases text <;> rfl

/-- The texts of a list are found as they were put, at whatever place the list begins. -/
theorem textsFrom_map (name : String) (index : Nat) (texts : List String) :
    textsFrom name index (texts.map .string) = .ok texts := by
  induction texts generalizing index with
  | nil => rfl
  | cons first later ih =>
    rw [List.map_cons, textsFrom, ih]
    rfl

/-- A list of texts that may be null is found as it was put. -/
theorem optionalTexts_ofTexts? (name : String) (listed : Option (List String)) :
    optionalTexts name (some (Json.ofTexts? listed)) = .ok listed := by
  cases listed with
  | none => rfl
  | some found =>
    have all : texts name (some (.array (found.map .string))) = .ok found :=
      textsFrom_map name 0 found
    simp [optionalTexts, Json.ofTexts?, all, Except.map]

end Checked

namespace Policy

/-- The fields of a statement that it is built from, its principals and its condition aside. -/
def Statement.fields (statement : Statement) : List (String × Json) :=
  -- Both spellings of an element are there, and one of them is null.
  [("index", .int statement.index), ("sid", Json.ofText? statement.sid),
    ("effect", .string statement.effect.name),
    ("action", Json.ofTexts? statement.action.covered?),
    ("not_action", Json.ofTexts? statement.action.leftOut?),
    ("resource", Json.ofTexts? statement.resource.covered?),
    ("not_resource", Json.ofTexts? statement.resource.leftOut?)]

/-- The fields of a document that it is built from, its statements aside. -/
def Document.fields (document : Document) : List (String × Json) :=
  -- The version is written even where it is the one that is meant by none.
  [("version", .string document.version), ("id", Json.ofText? document.id)]

/-- A selection of patterns is joined from its two spellings, if it has any pattern. -/
theorem Statement.selectPatterns_eq {name : String} {selection : Selection (List String)}
    (filled : selection.named ≠ []) :
    selectPatterns name selection.covered? selection.leftOut? = .ok selection := by
  rcases selection with named | named
  · obtain ⟨first, later, rfl⟩ := List.exists_cons_of_ne_nil filled
    rfl
  · obtain ⟨first, later, rfl⟩ := List.exists_cons_of_ne_nil filled
    rfl

/-- A selection of principals is joined from its two spellings. -/
theorem Statement.selectPrincipal_eq (selection : Option (Selection PrincipalBlock)) :
    selectPrincipal (selection.bind Selection.covered?) (selection.bind Selection.leftOut?) =
      .ok selection := by
  rcases selection with _ | _ | _ <;> rfl

/-- The patterns of a statement are read from its fields. -/
theorem Statement.patterns_fields (statement : Statement) :
    Patterns.ofFields statement.fields =
      .ok ⟨statement.action.covered?, statement.action.leftOut?, statement.resource.covered?,
        statement.resource.leftOut?⟩ := by
  have action : Json.find? "action" statement.fields =
      some (Json.ofTexts? statement.action.covered?) := rfl
  have notAction : Json.find? "not_action" statement.fields =
      some (Json.ofTexts? statement.action.leftOut?) := rfl
  have resource : Json.find? "resource" statement.fields =
      some (Json.ofTexts? statement.resource.covered?) := rfl
  have notResource : Json.find? "not_resource" statement.fields =
      some (Json.ofTexts? statement.resource.leftOut?) := rfl
  simp only [Patterns.ofFields, action, notAction, resource, notResource,
    Checked.optionalTexts_ofTexts?]
  rfl

/-- A statement with patterns is built from its fields, its principals and its condition. -/
theorem Statement.make_fields {statement : Statement} (action : statement.action.named ≠ [])
    (resource : statement.resource.named ≠ []) :
    make statement.fields (statement.principal.bind Selection.covered?)
      (statement.principal.bind Selection.leftOut?) statement.condition = .ok statement := by
  have index : Checked.wholeNumber "index" (Json.find? "index" statement.fields) =
      .ok statement.index := rfl
  have sid : Checked.optionalText "sid" (Json.find? "sid" statement.fields) = .ok statement.sid :=
    Checked.optionalText_ofText? "sid" statement.sid
  have effect : Checked.choice "effect" Effect.named (Json.find? "effect" statement.fields) =
      .ok statement.effect := by
    have there : Json.find? "effect" statement.fields = some (.string statement.effect.name) := rfl
    rw [there]
    cases statement.effect <;> rfl
  simp only [make, index, sid, effect, patterns_fields, Checked.both, Bind.bind, Except.bind,
    selectPatterns_eq action, selectPatterns_eq resource, selectPrincipal_eq]
  rfl

/-- A document is built from its fields and its statements. -/
theorem Document.make_fields (document : Document) :
    make document.fields document.statements = .ok document := by
  have version : Checked.text "version" (Json.find? "version" document.fields) =
      .ok document.version := rfl
  have id : Checked.optionalText "id" (Json.find? "id" document.fields) = .ok document.id :=
    Checked.optionalText_ofText? "id" document.id
  rw [make, version, id]
  rfl

/-- A document passes the rules for building one and its parts, and is what is built. -/
structure Document.Rebuilds (document : Document) : Prop where
  whole : make document.fields document.statements = .ok document
  statement : ∀ statement ∈ document.statements,
    Statement.make statement.fields (statement.principal.bind Selection.covered?)
      (statement.principal.bind Selection.leftOut?) statement.condition = .ok statement
  principal : ∀ statement ∈ document.statements, ∀ selection, statement.principal = some selection →
    PrincipalBlock.make (decide (selection.named = .everyone)) selection.named.lists =
      .ok selection.named

/-- Texts that a value writes are at least one. -/
theorem WritesTexts.ne_nil {value : Json} {texts : List String}
    (written : WritesTexts value texts) : texts ≠ [] := by
  cases written with
  | single text => simp
  | list filled => exact filled

/-- What a selection names is written by a member. -/
theorem WritesSelection.exists_writes {α : Type} {writes : Json → α → Prop} {element : String}
    {members : Json.Members Json} {selection : Selection α}
    (written : WritesSelection writes element members (some selection)) :
    ∃ member ∈ members, writes member.2 selection.named := by
  cases selection with
  | only named =>
    obtain ⟨⟨value, there, writing⟩, -⟩ := writesSelection_only_iff.mp written
    exact ⟨_, Json.mem_of_find? there, writing⟩
  | allBut named =>
    obtain ⟨-, value, there, writing⟩ := writesSelection_allBut_iff.mp written
    exact ⟨_, Json.mem_of_find? there, writing⟩

/-- Setting the list of a kind to some principals leaves no empty lists alone. -/
theorem isEmpty_set {names : List String} (filled : names ≠ []) (lists : PrincipalLists)
    (kind : PrincipalKind) : (lists.set kind names).isEmpty = false := by
  cases kind <;> simp [PrincipalLists.isEmpty, PrincipalKind.all, PrincipalLists.set,
    PrincipalLists.of, filled]

namespace Reader

variable {field : String}

/-- Reading principals ends with some in the lists, if there is anything to read. -/
theorem isEmpty_of_foldlM_readPrincipals {members : Json.Members Json} (filled : members ≠ [])
    {lists others : PrincipalLists}
    (read : members.foldlM (readPrincipals field) lists = .ok others) : others.isEmpty = false := by
  induction members generalizing lists with
  | nil => exact absurd rfl filled
  | cons member later ih =>
    rw [List.foldlM_cons] at read
    obtain ⟨next, first, behind⟩ := bind_eq_ok_iff.mp read
    cases later with
    | nil =>
      cases behind
      obtain ⟨kind, names, -, texts, -, rfl⟩ := readPrincipals_eq_ok_iff.mp first
      exact isEmpty_set texts.ne_nil lists kind
    | cons other rest => exact ih (by simp) behind

/-- A block that was read passes the rule for building one. -/
theorem make_of_readBlock {value : Json} {block : PrincipalBlock}
    (read : readBlock field value = .ok block) :
    PrincipalBlock.make (decide (block = .everyone)) block.lists = .ok block := by
  unfold readBlock at read
  split at read
  · split at read
    · cases read
      rfl
    · cases read
  · rename_i members
    split at read
    · cases read
    · rename_i filled
      obtain ⟨lists, all, rfl⟩ := map_eq_ok_iff.mp read
      have some := isEmpty_of_foldlM_readPrincipals (by simpa using filled) all
      simp [PrincipalBlock.make, PrincipalBlock.lists, some]
  · cases read

/-- What a principal element names was read as a block. -/
theorem readBlock_of_readPrincipalElement {members : Json.Members Json}
    {selection : Selection PrincipalBlock}
    (read : readPrincipalElement members = .ok (some selection)) :
    ∃ spelling value, readBlock spelling value = .ok selection.named := by
  unfold readPrincipalElement at read
  split at read
  · cases read
  · cases read
  · rename_i spelling found
    obtain ⟨_, joined, same⟩ := map_eq_ok_iff.mp read
    obtain rfl := Option.some.inj same
    cases spelling with
    | only value =>
      obtain ⟨block, named, rfl⟩ := map_eq_ok_iff.mp joined
      exact ⟨_, value, named⟩
    | allBut value =>
      obtain ⟨block, named, rfl⟩ := map_eq_ok_iff.mp joined
      exact ⟨_, value, named⟩

/-- Patterns that were read are at least one. -/
theorem named_ne_nil_of_readPatternElement {isPattern : String → Bool} {element : String}
    {members : Json.Members Json} {selection : Selection (List String)}
    (read : readPatternElement isPattern element members = .ok selection) :
    selection.named ≠ [] := by
  obtain ⟨member, -, texts, -⟩ := (readPatternElement_eq_ok_iff.mp read).exists_writes
  exact texts.ne_nil

end Reader

/-- A document that was read passes all rules for building it from its parts. -/
theorem Document.rebuilds_of_read {tree : Json} {document : Document}
    (accepted : (Document.read tree).result = .ok document) : document.Rebuilds := by
  have readAt : ∀ statement ∈ document.statements,
      ∃ position value, (Reader.readStatement position value).result = .ok statement := by
    intro statement inside
    obtain ⟨position, found⟩ := List.getElem?_of_mem inside
    exact ⟨position, (Document.read_statement accepted found).2⟩
  refine ⟨make_fields document, fun statement inside => ?_, fun statement inside selection
    there => ?_⟩
  · obtain ⟨position, value, read⟩ := readAt statement inside
    obtain ⟨members, -, -, -, -, action, resource, -⟩ := Reader.readStatement_eq_ok_iff.mp read
    exact Statement.make_fields (Reader.named_ne_nil_of_readPatternElement action)
      (Reader.named_ne_nil_of_readPatternElement resource)
  · obtain ⟨position, value, read⟩ := readAt statement inside
    obtain ⟨members, -, -, -, -, -, -, principal, -⟩ := Reader.readStatement_eq_ok_iff.mp read
    rw [there] at principal
    obtain ⟨spelling, block, named⟩ := Reader.readBlock_of_readPrincipalElement principal
    exact Reader.make_of_readBlock named

end Policy

end AccessPolicy
