import AccessPolicy.Proofs.Policy.Image
import AccessPolicy.Proofs.Policy.Rejection

/-!
Events of reading: a hint for each suspicious condition entry, up to where the reading stops.

The entries of an accepted document are those of its statements. Those of a rejected one are found
in the tree: all entries of the statements before the faulty one, and what stands in the condition
of that statement before its first fault.
-/

namespace AccessPolicy

/-- Letter case in the name of a key does not count for a hint. -/
theorem Condition.GlobalKey.hint?_congr {key other : String}
    (same : Text.lower key = Text.lower other) (family : Condition.Family) (quantified : Bool) :
    hint? family key quantified = hint? family other quantified := by
  simp only [hint?, find?, same]

namespace Policy

open Condition (Entry OperatorKey)

/-- A condition entry, with the place and the identifier of its statement. -/
structure Site where
  statement : Int
  sid : Option String
  entry : Entry

/-- The hint for a condition entry, if it is likely a mistake. -/
def Site.hint? (site : Site) : Option Log.Event :=
  -- All but the text of the hint is what the entry says of itself.
  let operator := site.entry.operator
  let hint := Condition.GlobalKey.hint? operator.base.family site.entry.key
    operator.quantifier.isSome
  hint.map (.conditionTypeHint site.statement site.sid operator.raw site.entry.key)

/-- The condition entries of statements from a place on. -/
def sitesFrom : Nat → List Statement → List Site
  -- They are in the order of the statements, and within one in that of its condition.
  | _, [] => []
  | place, statement :: later =>
    (statement.condition.getD []).map (Site.mk place statement.sid) ++ sitesFrom (place + 1) later

/-- The condition entries of a document. -/
def Document.sites (document : Document) : List Site :=
  -- Places are counted from zero.
  sitesFrom 0 document.statements

/-! ## What stands before a fault -/

/-- The leaves of a faulty operator before its first fault. -/
inductive LeavesBefore : String × Json → List Leaf → Prop where
  | unread {raw : String} {value : Json} (unspelled : ∀ key : OperatorKey, ¬ key.WrittenAs raw) :
      LeavesBefore (raw, value) []
  | keyless {member : String × Json} (unfilled : ¬ HasKeys member) : LeavesBefore member []
  | leaf {key : OperatorKey} {raw : String} {members front after : Json.Members Json}
      {faulty : String × Json} (spelled : key.WrittenAs raw)
      (split : members = front ++ faulty :: after)
      (earlier : ∀ leaf ∈ front, IsValues key.base leaf.2) (broken : ¬ IsValues key.base faulty.2) :
      LeavesBefore (raw, .object members) (leavesOf (raw, .object front))

/-- A value passes the checks of a statement, apart from that of its condition. -/
def PassesOthers (value : Json) : Prop :=
  -- The condition is checked last.
  ∀ check : StatementCheck, check ≠ .condition → check.Passes value

/-- The entries of a faulty statement before its first fault. -/
inductive EntriesBefore (value : Json) : List Entry → Prop where
  | elsewhere (failed : ¬ PassesOthers value) : EntriesBefore value []
  | shape {given : Json} (others : PassesOthers value)
      (there : Json.find? "Condition" (membersOf value) = some given)
      (shapeless : ∀ members, given ≠ .object members) : EntriesBefore value []
  | operator {front after : Json.Members Json} {faulty : String × Json} {inner : List Leaf}
      {entries : List Entry} (others : PassesOthers value)
      (there : Json.find? "Condition" (membersOf value) = some (.object (front ++ faulty :: after)))
      (earlier : ∀ member ∈ front, IsOperator member) (broken : ¬ IsOperator faulty)
      (within : LeavesBefore faulty inner)
      (written : List.Forall₂ WritesEntry (leaves front ++ inner) entries) :
      EntriesBefore value entries

/-- The entries that whole statements write from a place on. -/
inductive WritesSites : Nat → List Json → List Site → Prop where
  | nil (place : Nat) : WritesSites place [] []
  | cons {place : Nat} {value : Json} {later : List Json} {condition : Option (List Entry)}
      {sites : List Site}
      (written : Option.Rel WritesCondition (Json.find? "Condition" (membersOf value)) condition)
      (behind : WritesSites (place + 1) later sites) :
      WritesSites place (value :: later)
        ((condition.getD []).map (Site.mk place (sidOf value)) ++ sites)

/-- The condition entries of a faulty tree before its first fault. -/
inductive SitesBefore (tree : Json) : List Site → Prop where
  | outside {check : DocumentCheck} (failed : ¬ check.Passes tree) : SitesBefore tree []
  | statement {front after : List Json} {faulty : Json} {sites : List Site} {entries : List Entry}
      (listed : HasStatements tree (front ++ faulty :: after))
      (earlier : ∀ value ∈ front, IsStatementObject value) (broken : ¬ IsStatementObject faulty)
      (written : WritesSites 0 front sites) (within : EntriesBefore faulty entries) :
      SitesBefore tree (sites ++ entries.map (Site.mk front.length (sidOf faulty)))

/-- A faulty operator has one list of leaves before its first fault. -/
theorem LeavesBefore.unique : Relator.RightUnique LeavesBefore := by
  intro member inner other before beforeToo
  cases before with
  | unread unspelled =>
    cases beforeToo with
    | leaf spelled => exact absurd spelled (unspelled _)
    | _ => rfl
  | keyless unfilled =>
    cases beforeToo with
    | leaf _ split => exact absurd ⟨_, by simp [split], rfl⟩ unfilled
    | _ => rfl
  | leaf spelled split earlier broken =>
    cases beforeToo with
    | unread unspelled => exact absurd spelled (unspelled _)
    | keyless unfilled => exact absurd ⟨_, by simp [split], rfl⟩ unfilled
    | leaf spelledToo splitToo earlierToo brokenToo =>
      obtain rfl := spelled.unique spelledToo
      obtain ⟨rfl, -⟩ :=
        split_unique (split.symm.trans splitToo) earlier broken earlierToo brokenToo
      rfl

/-- A faulty statement has one list of entries before its first fault. -/
theorem EntriesBefore.unique : Relator.RightUnique EntriesBefore := by
  intro value entries other before beforeToo
  cases before with
  | elsewhere failed =>
    cases beforeToo with
    | elsewhere => rfl
    | shape others | operator others => exact absurd others failed
  | shape others there shapeless =>
    cases beforeToo with
    | elsewhere => rfl
    | shape => rfl
    | operator _ thereToo =>
      exact absurd (Option.some.inj (there.symm.trans thereToo)) (shapeless _)
  | operator others there earlier broken within written =>
    cases beforeToo with
    | elsewhere failed => exact absurd others failed
    | shape _ thereToo shapeless =>
      exact absurd (Option.some.inj (thereToo.symm.trans there)) (shapeless _)
    | operator _ thereToo earlierToo brokenToo withinToo writtenToo =>
      have same := Json.object.inj (Option.some.inj (there.symm.trans thereToo))
      obtain ⟨rfl, rfl⟩ := split_unique same earlier broken earlierToo brokenToo
      obtain rfl := LeavesBefore.unique within withinToo
      exact WritesEntry.unique.forall₂ written writtenToo

/-- Whole statements write one list of entries. -/
theorem WritesSites.unique (place : Nat) : Relator.RightUnique (WritesSites place) := by
  intro values sites others written writtenToo
  induction written generalizing others with
  | nil => cases writtenToo with | nil => rfl
  | cons condition behind ih =>
    cases writtenToo with
    | cons conditionToo behindToo =>
      rw [rel_unique WritesCondition.unique condition conditionToo, ih behindToo]

/-- A tree lists its statements in one way. -/
theorem HasStatements.unique : Relator.RightUnique HasStatements := by
  intro tree values others listed listedToo
  obtain ⟨outline, read, rfl⟩ := hasStatements_iff.mp listed
  obtain ⟨outlineToo, readToo, rfl⟩ := hasStatements_iff.mp listedToo
  rw [Except.ok.inj (read.symm.trans readToo)]

/-- A faulty tree has one list of entries before its first fault. -/
theorem SitesBefore.unique : Relator.RightUnique SitesBefore := by
  intro tree sites others before beforeToo
  cases before with
  | outside failed =>
    cases beforeToo with
    | outside => rfl
    | statement listed => exact absurd (listed.passes _) failed
  | statement listed earlier broken written within =>
    cases beforeToo with
    | outside failed => exact absurd (listed.passes _) failed
    | statement listedToo earlierToo brokenToo writtenToo withinToo =>
      obtain ⟨rfl, rfl⟩ := split_unique (HasStatements.unique listed listedToo) earlier broken
        earlierToo brokenToo
      rw [WritesSites.unique 0 written writtenToo, EntriesBefore.unique within withinToo]

/-! ## What is recorded -/

/-- The hints for entries of one statement are those that reading it records. -/
theorem filterMap_hint?_map {place : Int} {sid : Option String} {entries : List Entry} :
    (entries.map (Site.mk place sid)).filterMap Site.hint? =
      entries.filterMap (Reader.hintFor place sid) := by
  rw [List.filterMap_map]
  rfl

namespace Reader

variable {index : Nat} {sid : Option String} {fault : Fault} {entries : List Entry}

/-- The keys of an operator are recorded with the hints for their entries. -/
theorem events_readEntries {operator : OperatorKey} {members : Json.Members Json}
    (read : (readEntries index sid operator members).result = .ok entries) :
    (readEntries index sid operator members).events = entries.filterMap (hintFor index sid) := by
  induction members generalizing entries with
  | nil =>
    cases read
    rfl
  | cons first later ih =>
    simp only [readEntries, Reading.result_bind, Reading.result_silent, Reading.result_noting,
      Reading.result_pure, bind_eq_ok_iff, Except.ok.injEq] at read
    obtain ⟨entry, here, _, -, others, behind, rfl⟩ := read
    rw [readEntries, Reading.events_bind_of_ok here, Reading.events_bind_of_ok rfl,
      Reading.events_bind_of_ok behind, ih behind]
    cases hinted : hintFor index sid entry <;> simp [hinted]

/-- Reading the keys of an operator stops at the first faulty one, with hints up to there. -/
theorem readEntries_stopped {operator : OperatorKey} {members : Json.Members Json}
    (stopped : (readEntries index sid operator members).result = .error fault) :
    ∃ front faulty after entries, members = front ++ faulty :: after ∧
      ¬ IsValues operator.base faulty.2 ∧
      List.Forall₂ (fun leaf entry => readEntry operator leaf = .ok entry) front entries ∧
      (readEntries index sid operator members).events =
        entries.filterMap (hintFor index sid) := by
  induction members with
  | nil => cases stopped
  | cons first later ih =>
    simp only [readEntries, Reading.result_bind, Reading.result_silent, Reading.result_noting,
      Reading.result_pure, bind_eq_error_iff, reduceCtorEq, and_false, exists_false, or_false,
      false_or] at stopped
    rcases stopped with refused | ⟨entry, read, _, -, behind⟩
    · refine ⟨[], first, later, [], rfl, ?_, .nil, ?_⟩
      · simp [← readEntry_accepted_iff, refused]
      · rw [readEntries, Reading.events_bind_of_error refused]
        rfl
    · obtain ⟨front, faulty, after, entries, rfl, broken, each, hints⟩ := ih behind
      refine ⟨first :: front, faulty, after, entry :: entries, rfl, broken, .cons read each, ?_⟩
      rw [readEntries, Reading.events_bind_of_ok read, Reading.events_bind_of_ok rfl,
        Reading.events_bind_of_error behind, hints]
      cases hinted : hintFor index sid entry <;> simp [hinted]

/-- A member of a condition is recorded with the hints for its entries. -/
theorem events_readOperator {member : String × Json}
    (read : (readOperator index sid member).result = .ok entries) :
    (readOperator index sid member).events = entries.filterMap (hintFor index sid) := by
  unfold readOperator at read ⊢
  split at read
  · cases read
  · split at read
    · cases read
    · exact events_readEntries read
    · cases read

/-- Reading a member of a condition stops behind the leaves before its first fault. -/
theorem readOperator_stopped {member : String × Json}
    (stopped : (readOperator index sid member).result = .error fault) :
    ∃ inner entries, LeavesBefore member inner ∧ List.Forall₂ WritesEntry inner entries ∧
      (readOperator index sid member).events = entries.filterMap (hintFor index sid) := by
  obtain ⟨raw, value⟩ := member
  unfold readOperator at stopped ⊢
  split at stopped
  · rename_i wrong unread
    refine ⟨[], [], .unread fun key spelled => ?_, .nil, rfl⟩
    cases unread.symm.trans (OperatorKey.read_eq_ok_iff.mpr spelled)
  · rename_i key read
    split at stopped
    · rename_i empty
      refine ⟨[], [], .keyless ?_, .nil, rfl⟩
      rintro ⟨inner, filled, object⟩
      cases empty.symm.trans object
      exact filled rfl
    · rename_i members _ object
      obtain rfl : value = .object members := object
      obtain ⟨front, faulty, after, entries, rfl, broken, each, hints⟩ :=
        readEntries_stopped stopped
      refine ⟨_, entries, .leaf (OperatorKey.read_eq_ok_iff.mp read) rfl ?_ broken, ?_, hints⟩
      · intro leaf inside
        obtain ⟨entry, -, found⟩ := exists_of_mem_left each inside
        exact readEntry_accepted_iff.mp ⟨entry, found⟩
      · rw [leavesOf, List.forall₂_map_left_iff]
        exact each.imp fun leaf entry found => ((readEntry_eq_ok_iff_writes read).mp found).1
    · rename_i shapeless
      refine ⟨[], [], .keyless ?_, .nil, rfl⟩
      rintro ⟨inner, -, object⟩
      exact shapeless inner object

/-- The members of a condition are recorded with the hints for their entries. -/
theorem events_readOperators {members : Json.Members Json}
    (read : (readOperators index sid members).result = .ok entries) :
    (readOperators index sid members).events = entries.filterMap (hintFor index sid) := by
  induction members generalizing entries with
  | nil =>
    cases read
    rfl
  | cons first later ih =>
    simp only [readOperators, Reading.result_bind, Reading.result_pure, bind_eq_ok_iff,
      Except.ok.injEq] at read
    obtain ⟨earlier, here, others, behind, rfl⟩ := read
    rw [readOperators, Reading.events_bind_of_ok here, Reading.events_bind_of_ok behind,
      events_readOperator here, ih behind, Reading.events_pure, List.append_nil,
      List.filterMap_append]

/-- Reading the members of a condition stops at the first faulty one, with hints up to there. -/
theorem readOperators_stopped {members : Json.Members Json}
    (stopped : (readOperators index sid members).result = .error fault) :
    ∃ front faulty after inner entries, members = front ++ faulty :: after ∧
      (∀ member ∈ front, IsOperator member) ∧ ¬ IsOperator faulty ∧ LeavesBefore faulty inner ∧
      List.Forall₂ WritesEntry (leaves front ++ inner) entries ∧
      (readOperators index sid members).events = entries.filterMap (hintFor index sid) := by
  induction members with
  | nil => cases stopped
  | cons first later ih =>
    simp only [readOperators, Reading.result_bind, Reading.result_pure, bind_eq_error_iff,
      reduceCtorEq, and_false, exists_false, or_false] at stopped
    rcases stopped with refused | ⟨here, read, behind⟩
    · have broken : ¬ IsOperator first := by
        simp [← @readOperator_accepted_iff index sid, refused]
      obtain ⟨inner, entries, before, each, hints⟩ := readOperator_stopped refused
      refine ⟨[], first, later, inner, entries, rfl, by simp, broken, before, each, ?_⟩
      rw [readOperators, Reading.events_bind_of_error refused, hints]
    · obtain ⟨front, faulty, after, inner, entries, rfl, earlier, broken, before, each, hints⟩ :=
        ih behind
      have fit : IsOperator first := readOperator_accepted_iff.mp ⟨here, read⟩
      have written := (forall₂_and_right_iff.mp (readOperator_eq_ok_iff.mp read).2).1
      refine ⟨first :: front, faulty, after, inner, here ++ entries, rfl,
        List.forall_mem_cons.mpr ⟨fit, earlier⟩, broken, before, ?_, ?_⟩
      · rw [leaves, List.flatMap_cons, ← leaves, List.append_assoc]
        exact List.rel_append written each
      · rw [readOperators, Reading.events_bind_of_ok read, Reading.events_bind_of_error behind,
          events_readOperator read, hints, List.filterMap_append]

/-- A condition is recorded with the hints for its entries. -/
theorem events_readCondition {value : Option Json} {condition : Option (List Entry)}
    (read : (readCondition index sid value).result = .ok condition) :
    (readCondition index sid value).events =
      (condition.getD []).filterMap (hintFor index sid) := by
  unfold readCondition at read ⊢
  split at read
  · cases read
    rfl
  · simp only [Reading.result_bind, Reading.result_pure, bind_eq_ok_iff, Except.ok.injEq] at read
    obtain ⟨entries, members, rfl⟩ := read
    rw [Reading.events_bind_of_ok members, events_readOperators members, Reading.events_pure,
      List.append_nil, Option.getD_some]
  · cases read

section Statement

variable {value : Json} {statement : Statement} {rejection : Rejection}

/-- The elements but the condition are read where the checks of all of them are passed. -/
theorem passesOthers_iff : PassesOthers value ↔
    ∃ members, value = .object members ∧ ∃ sid, readSid members = .ok sid ∧
      ∃ statement, readElements index sid members = .ok statement := by
  constructor
  · intro passes
    obtain ⟨members, rfl⟩ := passes .object (by decide)
    have read (check : StatementCheck) (other : check ≠ .condition) :
        check.fault? (.object members) = none :=
      (check.fault?_eq_none_iff _).mpr (passes check other)
    obtain ⟨sid, identified⟩ := faultOf_eq_none_iff.mp (read .sid (by decide))
    obtain ⟨_, known⟩ := faultOf_eq_none_iff.mp (read .elements (by decide))
    obtain ⟨effect, effectRead⟩ := faultOf_eq_none_iff.mp (read .effect (by decide))
    obtain ⟨action, actionRead⟩ := faultOf_eq_none_iff.mp (read .action (by decide))
    obtain ⟨resource, resourceRead⟩ := faultOf_eq_none_iff.mp (read .resource (by decide))
    obtain ⟨principal, principalRead⟩ := faultOf_eq_none_iff.mp (read .principal (by decide))
    exact ⟨members, rfl, sid, identified, ⟨index, sid, effect, action, resource, principal, none⟩,
      readElements_eq_ok_iff.mpr ⟨known, effectRead, actionRead, resourceRead, principalRead, rfl,
        rfl, rfl⟩⟩
  · rintro ⟨members, rfl, sid, identified, statement, elements⟩ check other
    obtain ⟨known, effect, action, resource, principal, -⟩ := readElements_eq_ok_iff.mp elements
    rw [← check.fault?_eq_none_iff]
    cases check with
    | object => rfl
    | sid => exact faultOf_eq_none_iff.mpr ⟨_, identified⟩
    | elements => exact faultOf_eq_none_iff.mpr ⟨_, known⟩
    | effect => exact faultOf_eq_none_iff.mpr ⟨_, effect⟩
    | action => exact faultOf_eq_none_iff.mpr ⟨_, action⟩
    | resource => exact faultOf_eq_none_iff.mpr ⟨_, resource⟩
    | principal => exact faultOf_eq_none_iff.mpr ⟨_, principal⟩
    | condition => contradiction

/-- A statement that was read has the identifier and the condition that its value writes. -/
theorem written_of_readStatement (accepted : (readStatement index value).result = .ok statement) :
    sidOf value = statement.sid ∧ Option.Rel WritesCondition
      (Json.find? "Condition" (membersOf value)) statement.condition := by
  obtain ⟨members, rfl, identified, -, -, -, -, -, condition, -⟩ :=
    readStatement_eq_ok_iff.mp accepted
  rw [sidOf_object, identified]
  exact ⟨rfl, (readCondition_eq_ok_iff.mp condition).1⟩

/-- A statement is recorded with the hints for its entries. -/
theorem events_readStatement (accepted : (readStatement index value).result = .ok statement) :
    (readStatement index value).events =
      (statement.condition.getD []).filterMap (hintFor index statement.sid) := by
  unfold readStatement at accepted ⊢
  split at accepted
  · simp only [Reading.result_bind, Reading.result_silent, Reading.result_mapFault,
      Reading.result_pure, bind_eq_ok_iff, Except.ok.injEq] at accepted
    obtain ⟨sid, identified, plain, elements, condition, read, rfl⟩ := accepted
    have same := (readElements_eq_ok_iff.mp (mapError_eq_ok_iff.mp elements)).2.2.2.2.2.2.1
    rw [Reading.events_bind_of_ok identified, Reading.events_bind_of_ok elements,
      Reading.events_bind_of_ok read, Reading.events_mapFault,
      events_readCondition (mapError_eq_ok_iff.mp read), ← same]
    simp only [Reading.events_silent, Reading.events_pure, List.nil_append, List.append_nil]
  · cases accepted

/-- A condition is recorded up to its first fault, where the statement has no other. -/
theorem entriesBefore_of_readCondition (others : PassesOthers value)
    (stopped : (readCondition index sid (Json.find? "Condition" (membersOf value))).result =
      .error fault) :
    ∃ entries, EntriesBefore value entries ∧
      (readCondition index sid (Json.find? "Condition" (membersOf value))).events =
        entries.filterMap (hintFor index sid) := by
  unfold readCondition at stopped ⊢
  split at stopped
  · cases stopped
  · rename_i inner there
    simp only [Reading.result_bind, Reading.result_pure, bind_eq_error_iff, reduceCtorEq,
      and_false, exists_false, or_false] at stopped
    obtain ⟨front, faulty, after, leaves, entries, rfl, earlier, broken, before, written, hints⟩ :=
      readOperators_stopped stopped
    exact ⟨entries, .operator others there earlier broken before written,
      (Reading.events_bind_of_error stopped).trans hints⟩
  · rename_i given shapeless there
    exact ⟨[], .shape others there shapeless, rfl⟩

/-- A rejected statement is recorded with the hints for the entries before its first fault. -/
theorem entriesBefore_of_readStatement
    (refused : (readStatement index value).result = .error rejection) :
    ∃ entries, EntriesBefore value entries ∧
      (readStatement index value).events = entries.filterMap (hintFor index (sidOf value)) := by
  cases value with
  | object members =>
    rw [sidOf_object]
    simp only [readStatement, Reading.result_bind, Reading.result_silent, Reading.result_mapFault,
      Reading.result_pure, bind_eq_error_iff, mapError_eq_error_iff, mapError_eq_ok_iff,
      reduceCtorEq, and_false, exists_false, or_false] at refused
    rcases refused with ⟨fault, unread, rfl⟩ |
      ⟨sid, read, ⟨fault, unread, rfl⟩ | ⟨statement, elements, ⟨fault, stopped, rfl⟩⟩⟩
    · refine ⟨[], .elsewhere fun passes => ?_, ?_⟩
      · obtain ⟨_, ⟨rfl⟩, sid, read, -⟩ := (@passesOthers_iff index _).mp passes
        cases unread.symm.trans read
      · simp only [readStatement, unread]
        rfl
    · refine ⟨[], .elsewhere fun passes => ?_, ?_⟩
      · obtain ⟨_, ⟨rfl⟩, other, readToo, statement, elements⟩ :=
          (@passesOthers_iff index _).mp passes
        obtain rfl := Except.ok.inj (read.symm.trans readToo)
        cases unread.symm.trans elements
      · rw [readStatement, read, Reading.events_bind_of_ok rfl, unread]
        rfl
    · -- Only the condition is left, so the fault is in there.
      have others := passesOthers_iff.mpr ⟨members, rfl, sid, read, statement, elements⟩
      obtain ⟨entries, before, hints⟩ := entriesBefore_of_readCondition others stopped
      refine ⟨entries, before, ?_⟩
      rw [readStatement, read, Reading.events_bind_of_ok rfl, elements,
        Reading.events_bind_of_ok rfl]
      exact (Reading.events_bind_of_error (mapError_eq_error_iff.mpr ⟨fault, stopped, rfl⟩)).trans
        hints
  | _ =>
    refine ⟨[], .elsewhere fun passes => ?_, rfl⟩
    obtain ⟨_, ⟨⟩⟩ := passes .object (by decide)

/-- Statements are recorded with the hints for their entries. -/
theorem events_readStatements {values : List Json} {statements : List Statement}
    (accepted : (readStatements index values).result = .ok statements) :
    (readStatements index values).events =
      (sitesFrom index statements).filterMap Site.hint? := by
  induction values generalizing index statements with
  | nil =>
    cases accepted
    rfl
  | cons first later ih =>
    obtain ⟨statement, rest, rfl, read, behind⟩ := readStatements_cons_eq_ok_iff.mp accepted
    rw [readStatements, Reading.events_bind_of_ok read, Reading.events_bind_of_ok behind,
      events_readStatement read, ih behind, Reading.events_pure, List.append_nil, sitesFrom,
      List.filterMap_append, filterMap_hint?_map]

/-- A faulty list of statements is recorded with the hints for the entries before its fault. -/
theorem events_readStatements_of_refused {front after : List Json} {faulty : Json}
    (earlier : ∀ value ∈ front, IsStatementObject value)
    (refused : (readStatement (index + front.length) faulty).result = .error rejection) :
    ∃ sites entries, WritesSites index front sites ∧ EntriesBefore faulty entries ∧
      (readStatements index (front ++ faulty :: after)).events =
        (sites ++ entries.map (Site.mk (index + front.length : Nat) (sidOf faulty))).filterMap
          Site.hint? := by
  induction front generalizing index with
  | nil =>
    rw [List.length_nil, Nat.add_zero] at refused
    obtain ⟨entries, before, hints⟩ := entriesBefore_of_readStatement refused
    refine ⟨[], entries, .nil index, before, ?_⟩
    rw [List.nil_append, readStatements, Reading.events_bind_of_error refused, hints,
      List.nil_append, filterMap_hint?_map, List.length_nil, Nat.add_zero]
  | cons first later ih =>
    obtain ⟨fit, fitToo⟩ := List.forall_mem_cons.mp earlier
    obtain ⟨statement, read⟩ := (@readStatement_accepted_iff index first).mpr fit
    obtain ⟨sid, condition⟩ := written_of_readStatement read
    have place : index + 1 + later.length = index + (later.length + 1) := by omega
    rw [List.length_cons, ← place] at refused
    obtain ⟨sites, entries, written, before, hints⟩ := ih fitToo refused
    have stopped := readStatements_rejected_iff.mpr ⟨later, faulty, after, rfl, fitToo, refused⟩
    refine ⟨_, entries, .cons condition written, before, ?_⟩
    rw [List.cons_append, readStatements, Reading.events_bind_of_ok read,
      Reading.events_bind_of_error stopped,
      events_readStatement read, List.length_cons, ← place,
      List.append_assoc, List.filterMap_append, filterMap_hint?_map, hints, sid]

end Statement

end Reader

/-! ## Events -/

namespace Document

/-- An accepted document is logged with the hints for its entries, and then as parsed. -/
theorem events_of_accepted {tree : Json} {document : Document}
    (accepted : (read tree).result = .ok document) :
    (read tree).events = document.sites.filterMap Site.hint? ++
      [.policyParsed document.version document.id document.statements.length] := by
  obtain ⟨outline, outlined, listed, version, id⟩ := read_eq_ok_iff.mp accepted
  rw [read, outlined, Reading.events_bind_of_ok rfl, Reading.events_bind_of_ok listed,
    Reading.events_bind_of_ok rfl, Reader.events_readStatements listed, version, id]
  rfl

/-- A rejected tree is logged with the hints for the entries before its first fault. -/
theorem events_of_rejected {tree : Json} {rejection : Rejection}
    (rejected : (read tree).result = .error rejection) :
    ∃ sites, SitesBefore tree sites ∧ (read tree).events = sites.filterMap Site.hint? := by
  rcases read_eq_error_iff.mp rejected with ⟨fault, refused, -⟩ | ⟨values, listed, found⟩
  · obtain ⟨check, first, -⟩ := exists_check_of_readOutline refused
    refine ⟨[], .outside first.unfit, ?_⟩
    rw [read, refused]
    rfl
  · obtain ⟨outline, outlined, rfl⟩ := hasStatements_iff.mp listed
    obtain ⟨front, faulty, after, split, earlier, refused⟩ :=
      Reader.readStatements_rejected_iff.mp found
    have broken : ¬ IsStatementObject faulty := by
      rw [IsStatementObject, ← @Reader.readStatement_accepted_iff (0 + front.length), refused]
      simp
    obtain ⟨sites, entries, written, within, hints⟩ :=
      @Reader.events_readStatements_of_refused _ _ front after faulty earlier refused
    rw [← split, Nat.zero_add] at hints
    refine ⟨_, .statement (split ▸ listed) earlier broken written within, ?_⟩
    rw [read, outlined, Reading.events_bind_of_ok rfl, Reading.events_bind_of_error found, hints]
    rfl

/-- A hint is no report of a parsed document. -/
theorem policyParsed_not_mem_hints {sites : List Site} {version : String} {id : Option String}
    {count : Nat} : .policyParsed version id count ∉ sites.filterMap Site.hint? := by
  intro inside
  obtain ⟨site, -, hinted⟩ := List.mem_filterMap.mp inside
  obtain ⟨hint, -, made⟩ := Option.map_eq_some_iff.mp hinted
  cases made

/--
Reading logs a hint for each suspicious entry of a condition, in the order of the entries.

An accepted document is then logged as parsed, once. A rejected one never is, and it has the hints
for the entries before its first fault, which the tree alone settles. Whether an entry is suspicious
does not depend on letter case in the name of its key.
-/
theorem read_logs_hints (tree : Json) :
    (∀ document, (read tree).result = .ok document →
      (read tree).events = document.sites.filterMap Site.hint? ++
        [.policyParsed document.version document.id document.statements.length]) ∧
    (∀ rejection, (read tree).result = .error rejection →
      (∃ sites, (∀ others, SitesBefore tree others ↔ others = sites) ∧
        (read tree).events = sites.filterMap Site.hint?) ∧
      ∀ version id count, .policyParsed version id count ∉ (read tree).events) ∧
    ∀ (family : Condition.Family) (quantified : Bool) (key other : String),
      Text.lower key = Text.lower other →
        Condition.GlobalKey.hint? family key quantified =
          Condition.GlobalKey.hint? family other quantified := by
  refine ⟨fun document => events_of_accepted, fun rejection rejected => ?_,
    fun family quantified key other same =>
      Condition.GlobalKey.hint?_congr same family quantified⟩
  obtain ⟨sites, before, events⟩ := events_of_rejected rejected
  refine ⟨⟨sites, fun others => ?_, events⟩, fun version id count => ?_⟩
  · constructor
    · intro beforeToo
      exact SitesBefore.unique beforeToo before
    · rintro rfl
      exact before
  · rw [events]
    exact policyParsed_not_mem_hints

end Document

/-- A policy with keys that do not suit their operators, in which one key has some values. -/
def suspiciousTree (values : Json) : Json :=
  -- A key with many values suits a quantifier, and the presence of a key can always be tested.
  .object [("Version", .string "2012-10-17"), ("Statement", .array [
    .object [("Sid", .string "First"), ("Effect", .string "Allow"), ("Action", .string "*"),
      ("Resource", .string "*"), ("Condition", .object [
        ("StringEquals", .object [("aws:TagKeys", .string "team")])])],
    .object [("Effect", .string "Deny"), ("Action", .string "*"), ("Resource", .string "*"),
      ("Condition", .object [
        ("Null", .object [("aws:TagKeys", .bool true)]),
        ("ForAnyValue:StringLike", .object [("AWS:UserName", .string "a*"),
          ("aws:TAGKEYS", .string "b*"), ("aws:username", values), ("aws:Referer", .string "c")]),
        ("Bool", .object [("aws:Referer", .bool true)])])]])]

/-- The hints for the keys in front of that key. -/
def suspicionsInFront : List Log.Event := [
  .conditionTypeHint 0 (some "First") "StringEquals" "aws:TagKeys"
    "aws:TagKeys is multi-valued; use ForAllValues: or ForAnyValue:",
  .conditionTypeHint 1 none "ForAnyValue:StringLike" "AWS:UserName"
    "aws:username is single-valued; set operators are unnecessary"]

/-- The hints for that key and for those behind it. -/
def suspicionsBehind : List Log.Event := [
  .conditionTypeHint 1 none "ForAnyValue:StringLike" "aws:username"
    "aws:username is single-valued; set operators are unnecessary",
  .conditionTypeHint 1 none "ForAnyValue:StringLike" "aws:Referer"
    "aws:referer is single-valued; set operators are unnecessary",
  .conditionTypeHint 1 none "Bool" "aws:Referer"
    "aws:referer holds String values, compared with a bool operator"]

/-- With a value for the key, all hints are logged, and without one those in front of it. -/
theorem read_logs_hints_suspicious :
    (∃ document, (Document.read (suspiciousTree (.string "z"))).result = .ok document ∧
      document.sites.filterMap Site.hint? ++
          [.policyParsed document.version document.id document.statements.length] =
        suspicionsInFront ++ suspicionsBehind ++ [.policyParsed "2012-10-17" none 2]) ∧
    (∃ rejection, (Document.read (suspiciousTree (.array []))).result = .error rejection ∧
      ∃ sites, (∀ others, SitesBefore (suspiciousTree (.array [])) others ↔ others = sites) ∧
        sites.filterMap Site.hint? = suspicionsInFront) ∧
    Condition.GlobalKey.hint? .string "aws:TagKeys" false =
      Condition.GlobalKey.hint? .string "AWS:tAGkEYS" false := by
  have accepted : (Document.read (suspiciousTree (.string "z"))).result.toOption.isSome = true := by
    decide +kernel
  have refused : (faultOf (Document.read (suspiciousTree (.array []))).result).isSome = true := by
    decide +kernel
  have events : (Document.read (suspiciousTree (.string "z"))).events =
      suspicionsInFront ++ suspicionsBehind ++ [.policyParsed "2012-10-17" none 2] := by
    decide +kernel
  have fewer : (Document.read (suspiciousTree (.array []))).events = suspicionsInFront := by
    decide +kernel
  obtain ⟨document, kept⟩ := Option.isSome_iff_exists.mp accepted
  obtain ⟨rejection, found⟩ := Option.isSome_iff_exists.mp refused
  have read := eq_ok_of_toOption kept
  have rejected := faultOf_eq_some_iff.mp found
  have complete := (Document.read_logs_hints (suspiciousTree (.string "z"))).1 document read
  obtain ⟨sites, before, same⟩ :=
    ((Document.read_logs_hints (suspiciousTree (.array []))).2.1 rejection rejected).1
  refine ⟨⟨document, read, complete.symm.trans events⟩,
    ⟨rejection, rejected, sites, before, same.symm.trans fewer⟩, ?_⟩
  exact (Document.read_logs_hints .null).2.2 .string false _ _ (by decide +kernel)

end Policy

end AccessPolicy
