import AccessPolicy.Proofs.Json.Members
import AccessPolicy.Proofs.Policy.StatementReader

/-! Reading documents: an accepted one has an outline, and all statements of the outline. -/

namespace AccessPolicy.Policy

/-- An outline is read from an object of known elements, of which each is read. -/
theorem Reader.readOutline_eq_ok_iff {tree : Json} {outline : Outline} :
    readOutline tree = .ok outline ↔
      ∃ members, tree = .object members ∧ unknownNames documentElements members = [] ∧
        readVersion members = .ok outline.version ∧ readId members = .ok outline.id ∧
        statementsOf members = .ok outline.statements := by
  unfold readOutline
  split
  · rename_i members
    simp only [Json.object.injEq, exists_eq_left']
    by_cases known : unknownNames documentElements members = []
    · simp only [known, List.isEmpty_nil, Bool.not_true, Bool.false_eq_true, if_false,
        bind_eq_ok_iff, true_and]
      constructor
      · rintro ⟨version, versionRead, id, idRead, statements, listed, built⟩
        cases built
        exact ⟨versionRead, idRead, listed⟩
      · rintro ⟨versionRead, idRead, listed⟩
        exact ⟨_, versionRead, _, idRead, _, listed, rfl⟩
    · simp [known, throw, throwThe, MonadExceptOf.throw, Bind.bind, Except.bind]
  · rename_i shapeless
    constructor
    · intro read
      cases read
    · rintro ⟨members, object, -⟩
      exact absurd object (shapeless members)

/-- The outline of an object has the statements that are listed there. -/
theorem Reader.statements_of_readOutline {members : Json.Members Json} {statements : List Json}
    (listed : Json.find? "Statement" members = some (.array statements)) {outline : Outline}
    (outlined : readOutline (.object members) = .ok outline) : outline.statements = statements := by
  obtain ⟨_, same, -, -, -, found⟩ := readOutline_eq_ok_iff.mp outlined
  cases same
  rw [statementsOf, listed] at found
  exact (Except.ok.inj found).symm

/-- Other statements in an object change nothing about its outline but the statements. -/
theorem Reader.readOutline_put {members : Json.Members Json} {statements : List Json}
    (listed : Json.find? "Statement" members = some (.array statements)) (others : List Json)
    {outline : Outline} :
    readOutline (.object (Json.put "Statement" (.array others) members)) = .ok outline ↔
      outline.statements = others ∧
        readOutline (.object members) = .ok { outline with statements } := by
  -- The names are the same, and so are the entries of all names but one.
  have names : unknownNames documentElements (Json.put "Statement" (.array others) members) =
      unknownNames documentElements members := by
    rw [unknownNames, Json.names_put listed, unknownNames]
  have version : readVersion (Json.put "Statement" (.array others) members) =
      readVersion members := by
    rw [readVersion, Json.find?_put_of_ne (by decide), readVersion]
  have id : readId (Json.put "Statement" (.array others) members) = readId members := by
    rw [readId, Json.find?_put_of_ne (by decide), readId]
  simp only [readOutline_eq_ok_iff, Json.object.injEq, exists_eq_left', names, version, id,
    statementsOf, listed, Json.find?_put, Except.ok.injEq, and_true]
  constructor
  · rintro ⟨known, versionRead, idRead, rfl⟩
    exact ⟨rfl, known, versionRead, idRead⟩
  · rintro ⟨rfl, known, versionRead, idRead⟩
    exact ⟨known, versionRead, idRead, rfl⟩

/-- A document is accepted where its outline and all statements of the outline are. -/
theorem Document.read_eq_ok_iff {tree : Json} {document : Document} :
    (Document.read tree).result = .ok document ↔
      ∃ outline, Reader.readOutline tree = .ok outline ∧
        (Reader.readStatements 0 outline.statements).result = .ok document.statements ∧
        document.version = outline.version ∧ document.id = outline.id := by
  simp only [Document.read, Reading.result_bind, Reading.result_silent, Reading.result_noting,
    Reading.result_pure, bind_eq_ok_iff, mapError_eq_ok_iff, Except.ok.injEq]
  constructor
  · rintro ⟨outline, outlined, statements, listed, _, -, rfl⟩
    exact ⟨outline, outlined, listed, rfl, rfl⟩
  · obtain ⟨version, id, statements⟩ := document
    rintro ⟨outline, outlined, listed, rfl, rfl⟩
    exact ⟨outline, outlined, statements, listed, (), trivial, rfl⟩

/-- Every statement of an accepted document was read at the place that it names. -/
theorem Document.read_statement {tree : Json} {document : Document}
    (accepted : (Document.read tree).result = .ok document) {position : Nat}
    {statement : Statement} (found : document.statements[position]? = some statement) :
    statement.index = position ∧
      ∃ value, (Reader.readStatement position value).result = .ok statement := by
  obtain ⟨outline, -, listed, -, -⟩ := Document.read_eq_ok_iff.mp accepted
  obtain ⟨-, each⟩ := Reader.readStatements_eq_ok_iff.mp listed
  obtain ⟨value, -, read⟩ := each position statement found
  rw [Nat.zero_add] at read
  exact ⟨Reader.index_of_readStatement read, value, read⟩

/-- A document is accepted where it has an outline and each statement of that can be read. -/
theorem Document.accepted_iff {tree : Json} :
    (∃ document, (Document.read tree).result = .ok document) ↔
      ∃ outline, Reader.readOutline tree = .ok outline ∧
        ∀ value ∈ outline.statements,
          ∃ statement, (Reader.readStatement 0 value).result = .ok statement := by
  simp only [Document.read_eq_ok_iff, ← Reader.readStatements_accepted_iff 0]
  constructor
  · rintro ⟨document, outline, outlined, listed, -⟩
    exact ⟨outline, outlined, document.statements, listed⟩
  · rintro ⟨outline, outlined, statements, listed⟩
    exact ⟨⟨outline.version, outline.id, statements⟩, outline, outlined, listed, rfl, rfl⟩

/-- The statements of an accepted object were read from the list that it has of them. -/
theorem Document.readStatements_of_listed {members : Json.Members Json} {values : List Json}
    (listed : Json.find? "Statement" members = some (.array values)) {document : Document}
    (accepted : (Document.read (.object members)).result = .ok document) :
    (Reader.readStatements 0 values).result = .ok document.statements := by
  obtain ⟨outline, outlined, read, -, -⟩ := Document.read_eq_ok_iff.mp accepted
  rwa [Reader.statements_of_readOutline listed outlined] at read

namespace Reader

variable {members : Json.Members Json}

/-- A version is read where a member writes a known one, or none is written. -/
theorem readVersion_eq_ok_iff {version : String} :
    readVersion members = .ok version ↔
      (Json.find? "Version" members = some (.string version) ∨
        Json.find? "Version" members = none ∧ version = "2008-10-17") ∧
        version ∈ Fault.versions := by
  have checked (found : String) :
      (if Fault.versions.contains found then Except.ok found
        else .error (Fault.unsupportedVersion found)) = .ok version ↔
        found = version ∧ version ∈ Fault.versions := by
    split
    · rename_i known
      constructor
      · rintro ⟨⟩
        exact ⟨rfl, by simpa using known⟩
      · rintro ⟨rfl, -⟩
        rfl
    · rename_i unknown
      refine iff_of_false (by simp) ?_
      rintro ⟨rfl, known⟩
      exact unknown (by simpa using known)
  unfold readVersion
  cases Json.find? "Version" members with
  | none =>
    simp only [Option.getD_none]
    rw [checked]
    simp [defaultVersion, eq_comm]
  | some value =>
    cases value with
    | string text =>
      simp only [Option.getD_some]
      rw [checked]
      simp
    | _ => simp

/-- The identifier of a document is read where a member writes it. -/
theorem readId_eq_ok_iff {id : Option String} :
    readId members = .ok id ↔ WritesOptional (Json.find? "Id" members) id := by
  unfold readId
  rcases Json.find? "Id" members with _ | value
  · simp [writesOptional_none_iff, eq_comm]
  · cases value <;> simp [writesOptional_some_iff, eq_comm]

/-- The statements of a document are an object, as a list of one, or the items of an array. -/
theorem statementsOf_eq_ok_iff {values : List Json} :
    statementsOf members = .ok values ↔
      ∃ value, Json.find? "Statement" members = some value ∧
        ((∃ statement, value = .object statement ∧ values = [value]) ∨ value = .array values) := by
  unfold statementsOf
  rcases Json.find? "Statement" members with _ | value
  · simp
  · cases value <;> simp [eq_comm]

/-- Statements are read where objects of distinct members write lawful ones at their places. -/
theorem readStatements_eq_iff_writes {index : Nat} {values : List Json}
    {statements : List Statement} (distinct : ∀ value ∈ values, value.Distinct) :
    (readStatements index values).result = .ok statements ↔
      ∃ objects : List (Json.Members Json), values = objects.map .object ∧
        WritesStatements index objects statements ∧ ∀ statement ∈ statements, statement.Lawful := by
  induction values generalizing index statements with
  | nil =>
    constructor
    · rintro ⟨⟩
      exact ⟨[], rfl, .nil index, by simp⟩
    · rintro ⟨objects, empty, written, -⟩
      obtain rfl : objects = [] := List.map_eq_nil_iff.mp empty.symm
      cases written
      rfl
  | cons value later ih =>
    obtain ⟨here, behind⟩ := List.forall_mem_cons.mp distinct
    simp only [readStatements_cons_eq_ok_iff, readStatement_eq_ok_iff_writes here, ih behind]
    constructor
    · rintro ⟨statement, rest, rfl, ⟨first, rfl, place, written, lawful⟩, objects, rfl, others,
        lawfulToo⟩
      exact ⟨first :: objects, rfl, .cons place written others,
        List.forall_mem_cons.mpr ⟨lawful, lawfulToo⟩⟩
    · rintro ⟨objects, split, written, lawful⟩
      cases written with
      | nil => cases split
      | cons place first others =>
        obtain ⟨rfl, rfl⟩ := List.cons_eq_cons.mp split
        obtain ⟨lawful, lawfulToo⟩ := List.forall_mem_cons.mp lawful
        exact ⟨_, _, rfl, ⟨_, rfl, place, first, lawful⟩, _, rfl, others, lawfulToo⟩

end Reader

/-- What is checked about a document beyond the form of the members that write it. -/
structure Document.Lawful (document : Document) : Prop where
  version : document.version ∈ Fault.versions
  statements : ∀ statement ∈ document.statements, statement.Lawful

/-- A list of statements is the items of an array, or a single object. -/
theorem listsStatements_iff {value : Json} {objects : List (Json.Members Json)} :
    ListsStatements value objects ↔
      (∃ members, value = .object members ∧ objects.map Json.object = [value]) ∨
        value = .array (objects.map .object) := by
  constructor
  · rintro (members | statements)
    · exact Or.inl ⟨members, rfl, rfl⟩
    · exact Or.inr rfl
  · rintro (⟨members, rfl, single⟩ | rfl)
    · obtain ⟨first, rfl, same⟩ := List.map_eq_singleton_iff.mp single
      cases same
      exact .single members
    · exact .list objects

/-- A document is read where a tree of distinct members writes a lawful one. -/
theorem Document.read_eq_ok_iff_writes {tree : Json} (distinct : tree.Distinct)
    {document : Document} :
    (Document.read tree).result = .ok document ↔
      WritesDocument tree document ∧ document.Lawful := by
  -- The statements are distinct because they are found in a tree that is.
  have apart {members : Json.Members Json} (same : tree = .object members) {values : List Json}
      (listed : Reader.statementsOf members = .ok values) : ∀ value ∈ values, value.Distinct := by
    subst same
    obtain ⟨value, there, shape⟩ := Reader.statementsOf_eq_ok_iff.mp listed
    have inner : value.Distinct :=
      (Json.distinct_object_iff.mp distinct).2 _ (Json.mem_of_find? there)
    rcases shape with ⟨-, -, rfl⟩ | rfl
    · simpa using inner
    · exact Json.distinct_array_iff.mp inner
  simp only [read_eq_ok_iff, Reader.readOutline_eq_ok_iff, Reader.unknownNames_eq_nil_iff,
    Reader.readVersion_eq_ok_iff, Reader.readId_eq_ok_iff]
  constructor
  · rintro ⟨⟨version, id, values⟩, ⟨members, same, known, ⟨version, published⟩, id, listed⟩, read,
      rfl, rfl⟩
    obtain ⟨objects, rfl, written, lawful⟩ :=
      (Reader.readStatements_eq_iff_writes (apart same listed)).mp read
    obtain ⟨value, there, shape⟩ := Reader.statementsOf_eq_ok_iff.mp listed
    subst same
    refine ⟨.object known version id there (listsStatements_iff.mpr ?_) written,
      ⟨published, lawful⟩⟩
    exact shape.imp_left fun ⟨members, object, single⟩ => ⟨members, object, single⟩
  · rintro ⟨written, lawful⟩
    cases written with
    | @object members document value objects known version id there listed statements =>
      have found : Reader.statementsOf members = .ok (objects.map .object) := by
        refine Reader.statementsOf_eq_ok_iff.mpr ⟨value, there, ?_⟩
        exact listsStatements_iff.mp listed
      refine ⟨⟨document.version, document.id, objects.map .object⟩,
        ⟨members, rfl, known, ⟨version, lawful.version⟩, id, found⟩, ?_, rfl, rfl⟩
      exact (Reader.readStatements_eq_iff_writes (apart rfl found)).mpr
        ⟨objects, rfl, statements, lawful.statements⟩

end AccessPolicy.Policy
