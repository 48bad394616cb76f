import AccessPolicy.Proofs.Policy.ConditionReader
import AccessPolicy.Proofs.Result
import AccessPolicy.Proofs.Text.Order

/-! Reading statements: what an accepted one is, and how little its place has to do with it. -/

namespace AccessPolicy.Policy

/-- The statement at another place of its document. -/
def Statement.placedAt (statement : Statement) (index : Int) : Statement :=
  -- A place is no part of what a statement says.
  { statement with index }

namespace Reader

/-- The elements of a statement are read where each of them is. -/
theorem readElements_eq_ok_iff {index : Nat} {sid : Option String}
    {members : List (String × Json)} {statement : Statement} :
    readElements index sid members = .ok statement ↔
      checkElements members = .ok () ∧ readEffect members = .ok statement.effect ∧
        readPatternElement isActionPattern "Action" members = .ok statement.action ∧
        readPatternElement isResourcePattern "Resource" members = .ok statement.resource ∧
        readPrincipalElement members = .ok statement.principal ∧
        statement.index = index ∧ statement.sid = sid ∧ statement.condition = none := by
  simp only [readElements, bind_eq_ok_iff]
  constructor
  · rintro ⟨⟨⟩, known, effect, effectRead, action, actionRead, resource, resourceRead, principal,
      principalRead, built⟩
    cases built
    exact ⟨known, effectRead, actionRead, resourceRead, principalRead, rfl, rfl, rfl⟩
  · obtain ⟨place, identifier, effect, action, resource, principal, condition⟩ := statement
    rintro ⟨known, effectRead, actionRead, resourceRead, principalRead, rfl, rfl, rfl⟩
    exact ⟨(), known, effect, effectRead, action, actionRead, resource, resourceRead, principal,
      principalRead, rfl⟩

/-- A statement is read from an object of which every element is. -/
theorem readStatement_eq_ok_iff {index : Nat} {value : Json} {statement : Statement} :
    (readStatement index value).result = .ok statement ↔
      ∃ members, value = .object members ∧ readSid members = .ok statement.sid ∧
        checkElements members = .ok () ∧ readEffect members = .ok statement.effect ∧
        readPatternElement isActionPattern "Action" members = .ok statement.action ∧
        readPatternElement isResourcePattern "Resource" members = .ok statement.resource ∧
        readPrincipalElement members = .ok statement.principal ∧
        (readCondition index statement.sid (Json.find? "Condition" members)).result =
          .ok statement.condition ∧
        statement.index = index := by
  constructor
  · intro accepted
    unfold readStatement at accepted
    split at accepted
    · rename_i members
      simp only [Reading.result_bind, Reading.result_silent, Reading.result_mapFault,
        Reading.result_pure, bind_eq_ok_iff, mapError_eq_ok_iff] at accepted
      -- The condition comes last, and only its entries are added to the other elements.
      obtain ⟨sid, identified, plain, elements, condition, conditionRead, built⟩ := accepted
      obtain ⟨known, effect, action, resource, principal, place, rfl, -⟩ :=
        readElements_eq_ok_iff.mp elements
      cases built
      exact ⟨members, rfl, identified, known, effect, action, resource, principal,
        conditionRead, place⟩
    · cases accepted
  · rintro ⟨members, rfl, identified, known, effect, action, resource, principal, conditionRead,
      place⟩
    have elements : readElements index statement.sid members =
        .ok { statement with condition := none } :=
      readElements_eq_ok_iff.mpr ⟨known, effect, action, resource, principal, place, rfl, rfl⟩
    simp only [readStatement, Reading.result_bind, Reading.result_silent, Reading.result_mapFault,
      Reading.result_pure, bind_eq_ok_iff, mapError_eq_ok_iff]
    exact ⟨_, identified, _, elements, _, conditionRead, rfl⟩

/-- A statement reads the same at every place of a document. -/
theorem readStatement_placedAt {index : Nat} {value : Json} {statement : Statement}
    (accepted : (readStatement index value).result = .ok statement) (other : Nat) :
    (readStatement other value).result = .ok (statement.placedAt other) := by
  -- None of the elements is read with an eye to the place, though hints for the condition name it.
  obtain ⟨members, object, identified, known, effect, action, resource, principal, condition, -⟩ :=
    readStatement_eq_ok_iff.mp accepted
  exact readStatement_eq_ok_iff.mpr
    ⟨members, object, identified, known, effect, action, resource, principal,
      readCondition_eq_ok_iff.mpr (readCondition_eq_ok_iff.mp condition), rfl⟩

/-- Whether a value is read as a statement does not depend on the place of both. -/
theorem readStatement_placedAt_iff {value : Json} {statement : Statement} (index other : Nat) :
    (readStatement index value).result = .ok (statement.placedAt index) ↔
      (readStatement other value).result = .ok (statement.placedAt other) :=
  ⟨fun accepted => readStatement_placedAt accepted other,
    fun accepted => readStatement_placedAt accepted index⟩

/-- A statement that was read is at the place that it was read at. -/
theorem index_of_readStatement {index : Nat} {value : Json} {statement : Statement}
    (accepted : (readStatement index value).result = .ok statement) :
    statement.index = index := by
  obtain ⟨-, -, -, -, -, -, -, -, -, place⟩ := readStatement_eq_ok_iff.mp accepted
  exact place

/-- Every entry of a statement that was read suits its operator. -/
theorem suitable_of_readStatement {index : Nat} {value : Json} {statement : Statement}
    (accepted : (readStatement index value).result = .ok statement) :
    ∀ entry ∈ statement.condition.getD [], entry.Suitable := by
  obtain ⟨members, -, -, -, -, -, -, -, condition, -⟩ := readStatement_eq_ok_iff.mp accepted
  exact (readCondition_eq_ok_iff.mp condition).2

/-- Statements are read one by one, each at the place behind the one before it. -/
theorem readStatements_cons_eq_ok_iff {index : Nat} {value : Json} {later : List Json}
    {statements : List Statement} :
    (readStatements index (value :: later)).result = .ok statements ↔
      ∃ statement rest, statements = statement :: rest ∧
        (readStatement index value).result = .ok statement ∧
        (readStatements (index + 1) later).result = .ok rest := by
  rw [readStatements]
  simp only [Reading.result_bind, Reading.result_pure, bind_eq_ok_iff, Except.ok.injEq]
  constructor
  · rintro ⟨statement, read, rest, behind, rfl⟩
    exact ⟨statement, rest, rfl, read, behind⟩
  · rintro ⟨statement, rest, rfl, read, behind⟩
    exact ⟨statement, read, rest, behind, rfl⟩

/-- A list of statements is accepted where each of them is, and then holds each at its place. -/
theorem readStatements_eq_ok_iff {index : Nat} {values : List Json}
    {statements : List Statement} :
    (readStatements index values).result = .ok statements ↔
      statements.length = values.length ∧
        ∀ (position : Nat) (statement : Statement), statements[position]? = some statement →
          ∃ value, values[position]? = some value ∧
            (readStatement (index + position) value).result = .ok statement := by
  induction values generalizing index statements with
  | nil =>
    -- No values make no statements, and no other list is as short.
    simp only [readStatements, Reading.result_pure, Except.ok.injEq, List.length_nil,
      List.length_eq_zero_iff]
    constructor
    · rintro rfl
      simp
    · exact fun empty => empty.1.symm
  | cons first later ih =>
    rw [readStatements_cons_eq_ok_iff]
    constructor
    · rintro ⟨statement, rest, rfl, read, behind⟩
      obtain ⟨long, each⟩ := ih.mp behind
      refine ⟨by simp [long], fun position other found => ?_⟩
      cases position with
      | zero =>
        cases found
        exact ⟨first, rfl, read⟩
      | succ position =>
        obtain ⟨value, same, accepted⟩ := each position other found
        exact ⟨value, same, by rwa [Nat.add_right_comm] at accepted⟩
    · rintro ⟨long, each⟩
      obtain ⟨head, rest, rfl⟩ := List.exists_cons_of_length_eq_add_one long
      obtain ⟨value, same, read⟩ := each 0 head rfl
      cases same
      refine ⟨head, rest, rfl, read, ih.mpr ⟨by simpa using long, fun position other found => ?_⟩⟩
      obtain ⟨value, same, accepted⟩ := each (position + 1) other found
      exact ⟨value, same, by rwa [Nat.add_assoc, Nat.add_comm 1]⟩

/-- A statement stands in an accepted list where the value at its place is read as it. -/
theorem placedAt_mem_iff {values : List Json} {statements : List Statement}
    (accepted : (readStatements 0 values).result = .ok statements) {place : Nat}
    {statement : Statement} :
    statement.placedAt place ∈ statements ↔
      ∃ value, values[place]? = some value ∧
        (readStatement place value).result = .ok (statement.placedAt place) := by
  obtain ⟨long, each⟩ := readStatements_eq_ok_iff.mp accepted
  simp only [Nat.zero_add] at each
  constructor
  · intro member
    obtain ⟨position, found⟩ := List.getElem?_of_mem member
    obtain ⟨value, there, read⟩ := each position _ found
    -- A statement stands where it says that it does.
    have here : (place : Int) = position := index_of_readStatement read
    obtain rfl : place = position := Int.ofNat_inj.mp here
    exact ⟨value, there, read⟩
  · rintro ⟨value, here, read⟩
    -- Some statement was read from the value, and it can only be this one.
    have inside : place < statements.length := by
      rw [long]
      exact (List.getElem?_eq_some_iff.mp here).1
    have found : statements[place]? = some statements[place] := List.getElem?_eq_getElem inside
    obtain ⟨other, there, reread⟩ := each place _ found
    obtain rfl : value = other := Option.some.inj (here.symm.trans there)
    rw [Except.ok.inj (read.symm.trans reread)]
    exact List.mem_of_getElem? found

/-- Whether a list of statements is accepted depends on neither their order nor their places. -/
theorem readStatements_accepted_iff (index : Nat) {values : List Json} :
    (∃ statements, (readStatements index values).result = .ok statements) ↔
      ∀ value ∈ values, ∃ statement, (readStatement 0 value).result = .ok statement := by
  induction values generalizing index with
  | nil => simp [readStatements]
  | cons first later ih =>
    simp only [readStatements_cons_eq_ok_iff, List.forall_mem_cons, ← ih (index + 1)]
    constructor
    · rintro ⟨_, statement, rest, rfl, read, behind⟩
      exact ⟨⟨_, readStatement_placedAt read 0⟩, rest, behind⟩
    · rintro ⟨⟨statement, read⟩, rest, behind⟩
      exact ⟨_, _, rest, rfl, readStatement_placedAt read index, behind⟩

/-- Accepted statements say what their values say where all places are left aside. -/
theorem map_placedAt_of_readStatements {index : Nat} {values : List Json}
    {statements : List Statement}
    (accepted : (readStatements index values).result = .ok statements) :
    statements.map (·.placedAt 0) =
      values.filterMap fun value => (readStatement 0 value).result.toOption := by
  induction values generalizing index statements with
  | nil =>
    cases accepted
    rfl
  | cons first later ih =>
    obtain ⟨statement, rest, rfl, read, behind⟩ := readStatements_cons_eq_ok_iff.mp accepted
    -- The first value is read as the same statement wherever it stands.
    have here : (readStatement 0 first).result = .ok (statement.placedAt 0) :=
      readStatement_placedAt read 0
    simp [here, ih behind, Except.toOption]

/-- No name is unknown where all names are among the known ones. -/
theorem unknownNames_eq_nil_iff {known : List String} {members : Json.Members Json} :
    unknownNames known members = [] ↔ ∀ name ∈ Json.names members, name ∈ known := by
  rw [unknownNames, List.eq_nil_iff_forall_not_mem]
  simp [Text.mem_sortedSet]

/-- The elements of a statement pass their check where all of them are known. -/
theorem checkElements_eq_ok_iff {members : Json.Members Json} :
    checkElements members = .ok () ↔ ∀ name ∈ Json.names members, name ∈ statementElements := by
  rw [← unknownNames_eq_nil_iff, checkElements]
  cases unknownNames statementElements members <;> simp

/-- The identifier of a statement is read where a member writes it. -/
theorem readSid_eq_ok_iff {members : Json.Members Json} {sid : Option String} :
    readSid members = .ok sid ↔ WritesOptional (Json.find? "Sid" members) sid := by
  unfold readSid
  rcases Json.find? "Sid" members with _ | value
  · simp [writesOptional_none_iff, eq_comm]
  · cases value <;> simp [writesOptional_some_iff, eq_comm]

/-- The effect of a statement is read where a member writes its name. -/
theorem readEffect_eq_ok_iff {members : Json.Members Json} {effect : Effect} :
    readEffect members = .ok effect ↔
      Json.find? "Effect" members = some (.string effect.name) := by
  have named (name : String) : Effect.named.lookup name = some effect ↔ name = effect.name := by
    constructor
    · intro found
      obtain ⟨earlier, later, split, -⟩ := List.lookup_eq_some_iff.mp found
      have member : (name, effect) ∈ Effect.named := by simp [split]
      simp only [Effect.named, List.mem_cons, List.not_mem_nil, or_false, Prod.mk.injEq] at member
      rcases member with ⟨rfl, rfl⟩ | ⟨rfl, rfl⟩ <;> rfl
    · rintro rfl
      cases effect <;> decide
  have text (value : Json) :
      (value.string?.bind fun name => Effect.named.lookup name) = some effect ↔
        value = .string effect.name := by
    cases value <;> simp [Json.string?, named]
  unfold readEffect
  cases Json.find? "Effect" members with
  | none => simp
  | some value =>
    simp only [Option.some.injEq, ← text]
    cases value.string?.bind fun name => Effect.named.lookup name <;> simp

end Reader

/-- What is checked about a statement beyond the form of the members that write it. -/
structure Statement.Lawful (statement : Statement) : Prop where
  action : ∀ pattern ∈ statement.action.named, Reader.isActionPattern pattern = true
  resource : ∀ pattern ∈ statement.resource.named, Reader.isResourcePattern pattern = true
  principal : ∀ selection, statement.principal = some selection →
    ∀ name ∈ selection.named.lists.aws, Reader.isAwsPrincipal name = true
  condition : ∀ entry ∈ statement.condition.getD [], entry.Suitable

/-- What is checked about whatever a selection names can be told apart from the writing. -/
theorem writesSelection_and_iff {α : Type} {writes : Json → α → Prop} {fits : α → Prop}
    {element : String} {members : Json.Members Json} {selection : Option (Selection α)} :
    WritesSelection (fun value named => writes value named ∧ fits named) element members selection ↔
      WritesSelection writes element members selection ∧
        ∀ found, selection = some found → fits found.named := by
  have both (value : Option Json) (named : Option α) :
      Option.Rel (fun value named => writes value named ∧ fits named) value named ↔
        Option.Rel writes value named ∧ ∀ found, named = some found → fits found := by
    cases value <;> cases named <;> simp
  constructor
  · intro ⟨covered, leftOut⟩
    obtain ⟨covered, fitsCovered⟩ := (both _ _).mp covered
    obtain ⟨leftOut, fitsLeftOut⟩ := (both _ _).mp leftOut
    refine ⟨⟨covered, leftOut⟩, ?_⟩
    rintro (named | named) rfl
    · exact fitsCovered named rfl
    · exact fitsLeftOut named rfl
  · intro ⟨⟨covered, leftOut⟩, fitting⟩
    refine ⟨(both _ _).mpr ⟨covered, ?_⟩, (both _ _).mpr ⟨leftOut, ?_⟩⟩
    · rcases selection with _ | named | named <;> intro found same <;> cases same
      exact fitting _ rfl
    · rcases selection with _ | named | named <;> intro found same <;> cases same
      exact fitting _ rfl

/-- A statement is read where an object of distinct members writes a lawful one at its place. -/
theorem Reader.readStatement_eq_ok_iff_writes {index : Nat} {value : Json} {statement : Statement}
    (distinct : value.Distinct) :
    (readStatement index value).result = .ok statement ↔
      ∃ members, value = .object members ∧ statement.index = index ∧
        WritesStatement members statement ∧ statement.Lawful := by
  rw [readStatement_eq_ok_iff]
  refine exists_congr fun members => and_congr_right fun object => ?_
  subst object
  simp only [readSid_eq_ok_iff, checkElements_eq_ok_iff, readEffect_eq_ok_iff,
    readPatternElement_eq_ok_iff, readPrincipalElement_eq_ok_iff distinct, readCondition_eq_ok_iff,
    writesSelection_and_iff]
  constructor
  · intro ⟨sid, known, effect, ⟨action, actions⟩, ⟨resource, resources⟩, ⟨principal, names⟩,
      ⟨condition, suitable⟩, place⟩
    exact ⟨place, ⟨known, sid, effect, action, resource, principal, condition⟩,
      ⟨actions _ rfl, resources _ rfl, names, suitable⟩⟩
  · intro ⟨place, written, lawful⟩
    refine ⟨written.sid, written.known, written.effect, ⟨written.action, ?_⟩,
      ⟨written.resource, ?_⟩, ⟨written.principal, lawful.principal⟩,
      ⟨written.condition, lawful.condition⟩, place⟩
    · rintro _ ⟨⟩
      exact lawful.action
    · rintro _ ⟨⟩
      exact lawful.resource

end AccessPolicy.Policy
