import AccessPolicy.Proofs.Json.Distinct
import AccessPolicy.Proofs.Policy.Writing
import AccessPolicy.Proofs.Result

/-! Reading the elements of statements: what is accepted is what the members write. -/

namespace AccessPolicy

namespace PrincipalKind

/-- A kind is listed under its name and no other. -/
theorem lookup_named_eq_some_iff {name : String} {kind : PrincipalKind} :
    named.lookup name = some kind ↔ kind.name = name := by
  constructor
  · intro found
    obtain ⟨earlier, later, split, -⟩ := List.lookup_eq_some_iff.mp found
    have member : (name, kind) ∈ named := by simp [split]
    obtain ⟨other, -, same⟩ := List.mem_map.mp member
    cases same
    rfl
  · rintro rfl
    cases kind <;> decide

/-- No two kinds share a name. -/
theorem name_injective {kind other : PrincipalKind} (same : kind.name = other.name) :
    kind = other := by
  have here := lookup_named_eq_some_iff.mpr same
  rw [lookup_named_eq_some_iff.mpr (rfl : other.name = other.name)] at here
  exact (Option.some.inj here).symm

end PrincipalKind

namespace PrincipalLists

/-- Setting the list of a kind changes no other list. -/
theorem of_set (lists : PrincipalLists) (kind other : PrincipalKind) (entries : List String) :
    (lists.set kind entries).of other = if other = kind then entries else lists.of other := by
  cases kind <;> cases other <;> rfl

/-- Lists by kind are settled by the list of each kind. -/
theorem eq_of_forall_of {lists others : PrincipalLists}
    (same : ∀ kind, lists.of kind = others.of kind) : lists = others := by
  obtain ⟨aws, canonicalUser, federated, service⟩ := lists
  obtain ⟨aws', canonicalUser', federated', service'⟩ := others
  cases same .aws
  cases same .canonicalUser
  cases same .federated
  cases same .service
  rfl

end PrincipalLists

namespace Policy

namespace Reader

variable {field : String} {value : Json}

/-- Texts are read where a value writes them. -/
theorem readTexts_eq_ok_iff {texts : List String} :
    readTexts field value = .ok texts ↔ WritesTexts value texts := by
  constructor
  · intro accepted
    unfold readTexts at accepted
    split at accepted
    · cases accepted
      exact .single _
    · rename_i items
      split at accepted
      · cases accepted
      · rename_i filled
        split at accepted
        · rename_i found all
          cases accepted
          obtain rfl := Json.mapM_string?_eq_some_iff.mp all
          exact .list fun none => filled (by simp [none])
        · cases accepted
    · cases accepted
  · rintro (_ | filled)
    · rfl
    · have some : (texts.map Json.string).isEmpty = false := by simpa using filled
      simp [readTexts, filled, Json.mapM_string?_eq_some_iff.mpr rfl]

/-- Patterns are read where a value writes texts that are all patterns. -/
theorem readPatterns_eq_ok_iff {isPattern : String → Bool} {patterns : List String} :
    readPatterns isPattern field value = .ok patterns ↔
      WritesTexts value patterns ∧ ∀ pattern ∈ patterns, isPattern pattern = true := by
  rw [← @readTexts_eq_ok_iff field, readPatterns]
  cases readTexts field value with
  | error fault => simp
  | ok found =>
    simp only
    cases unfit : found.find? fun pattern => !isPattern pattern with
    | none =>
      simp only [Except.ok.injEq]
      constructor
      · rintro rfl
        exact ⟨rfl, by simpa using unfit⟩
      · exact And.left
    | some pattern =>
      -- A text that is no pattern is reported, and there would be none.
      have wrong := List.find?_some unfit
      simp only [reduceCtorEq, false_iff, Except.ok.injEq]
      rintro ⟨rfl, all⟩
      simp [all pattern (List.mem_of_find?_eq_some unfit)] at wrong

/-- A spelling is found where the members of its two names are there as it says. -/
theorem findSpelling_eq_ok_iff {element : String} {members : Json.Members Json}
    {spelling : Option (Selection Json)} :
    findSpelling element members = .ok spelling ↔
      Json.find? element members = spelling.bind Selection.covered? ∧
        Json.find? ("Not" ++ element) members = spelling.bind Selection.leftOut? := by
  unfold findSpelling
  cases Json.find? element members with
  | none =>
    cases Json.find? ("Not" ++ element) members <;>
      rcases spelling with _ | _ | _ <;> simp [Selection.covered?, Selection.leftOut?, eq_comm]
  | some here =>
    cases Json.find? ("Not" ++ element) members <;>
      rcases spelling with _ | _ | _ <;> simp [Selection.covered?, Selection.leftOut?, eq_comm]

section Selection

variable {α : Type} {read : String → Json → Except Fault α} {writes : Json → α → Prop}
  {element : String} {members : Json.Members Json}

/-- What a spelling names is read where the spelling writes it, meant in the same way. -/
theorem readSelection_eq_ok_iff {spelling : Selection Json} {selection : Selection α}
    (reads : ∀ field named, read field spelling.named = .ok named ↔
      writes spelling.named named) :
    readSelection read element spelling = .ok selection ↔
      Option.Rel writes spelling.covered? selection.covered? ∧
        Option.Rel writes spelling.leftOut? selection.leftOut? := by
  cases spelling with
  | only value =>
    simp only [Selection.named] at reads
    simp only [readSelection, map_eq_ok_iff, reads]
    cases selection <;> simp [Selection.covered?, Selection.leftOut?]
  | allBut value =>
    simp only [Selection.named] at reads
    simp only [readSelection, map_eq_ok_iff, reads]
    cases selection <;> simp [Selection.covered?, Selection.leftOut?]

/-- No spelling is found where the members write no selection. -/
theorem findSpelling_eq_none_iff :
    findSpelling element members = .ok none ↔ WritesSelection writes element members none := by
  rw [findSpelling_eq_ok_iff, writesSelection_none_iff]
  rfl

/-- Members write a selection where one spelling is there, from which the selection is read. -/
theorem writesSelection_some_iff
    (reads : ∀ member ∈ members, ∀ field named, read field member.2 = .ok named ↔
      writes member.2 named) {selection : Selection α} :
    WritesSelection writes element members (some selection) ↔
      ∃ spelling, findSpelling element members = .ok (some spelling) ∧
        readSelection read element spelling = .ok selection := by
  have found {spelling : Selection Json} (there : findSpelling element members = .ok spelling) :
      readSelection read element spelling = .ok selection ↔
        Option.Rel writes spelling.covered? selection.covered? ∧
          Option.Rel writes spelling.leftOut? selection.leftOut? := by
    obtain ⟨here, there⟩ := findSpelling_eq_ok_iff.mp there
    apply readSelection_eq_ok_iff
    -- The value that is read belongs to the member of one of the two names.
    cases spelling with
    | only value => exact reads (_, value) (Json.mem_of_find? here)
    | allBut value => exact reads (_, value) (Json.mem_of_find? there)
  rw [exists_congr fun _ => and_congr_right found]
  simp only [findSpelling_eq_ok_iff]
  constructor
  · intro written
    -- The way in which the selection is meant tells which of the two names is there.
    cases selection with
    | only named =>
      obtain ⟨⟨value, there, writing⟩, absent⟩ := writesSelection_only_iff.mp written
      exact ⟨.only value, ⟨there, absent⟩, .some writing, .none⟩
    | allBut named =>
      obtain ⟨absent, value, there, writing⟩ := writesSelection_allBut_iff.mp written
      exact ⟨.allBut value, ⟨absent, there⟩, .none, .some writing⟩
  · rintro ⟨spelling, ⟨here, there⟩, covered, leftOut⟩
    exact ⟨by simpa [here] using covered, by simpa [there] using leftOut⟩

/-- The patterns of an element are read where one spelling of it is there and writes patterns. -/
theorem readPatternElement_eq_ok_iff {isPattern : String → Bool}
    {selection : Selection (List String)} :
    readPatternElement isPattern element members = .ok selection ↔
      WritesSelection (fun value patterns => WritesTexts value patterns ∧
        ∀ pattern ∈ patterns, isPattern pattern = true) element members (some selection) := by
  have reads : ∀ member ∈ members, ∀ field patterns,
      readPatterns isPattern field member.2 = .ok patterns ↔
        WritesTexts member.2 patterns ∧ ∀ pattern ∈ patterns, isPattern pattern = true :=
    fun _ _ _ _ => readPatterns_eq_ok_iff
  rw [writesSelection_some_iff reads, readPatternElement]
  rcases findSpelling element members with fault | _ | spelling <;> simp

end Selection

/-- The principals of one kind are read where the kind is known and they are written rightly. -/
theorem readPrincipals_eq_ok_iff {lists others : PrincipalLists} {member : String × Json} :
    readPrincipals field lists member = .ok others ↔
      ∃ (kind : PrincipalKind) (names : List String), kind.name = member.1 ∧
        WritesTexts member.2 names ∧ (kind = .aws → ∀ name ∈ names, isAwsPrincipal name = true) ∧
        others = lists.set kind names := by
  simp only [← PrincipalKind.lookup_named_eq_some_iff,
    ← @readTexts_eq_ok_iff (field ++ "." ++ member.1), readPrincipals]
  cases PrincipalKind.named.lookup member.1 with
  | none => simp
  | some kind =>
    cases readTexts (field ++ "." ++ member.1) member.2 with
    | error fault => simp
    | ok names =>
      simp only [Option.some.injEq, Except.ok.injEq]
      have checked : (if kind = .aws then names.find? fun name => !isAwsPrincipal name else none) =
          none ↔ (kind = .aws → ∀ name ∈ names, isAwsPrincipal name = true) := by
        by_cases aws : kind = .aws <;> simp [aws]
      cases unfit : if kind = .aws then names.find? fun name => !isAwsPrincipal name else none with
      | none =>
        simp only [Except.ok.injEq]
        constructor
        · rintro rfl
          exact ⟨kind, names, rfl, rfl, checked.mp unfit, rfl⟩
        · rintro ⟨_, _, rfl, rfl, -, rfl⟩
          rfl
      | some name =>
        -- A name that is reported is one that should not be there.
        have wrong : ¬ (kind = .aws → ∀ name ∈ names, isAwsPrincipal name = true) := by
          rw [← checked, unfit]
          simp
        refine iff_of_false (by simp) ?_
        rintro ⟨_, _, rfl, rfl, right, -⟩
        exact wrong right

/-- A member is there for a kind and writes its list, or it is missing and leaves an old one. -/
def WritesOver (members : Json.Members Json) (lists others : PrincipalLists)
    (kind : PrincipalKind) : Prop :=
  -- Names of accounts are checked where they are written.
  match Json.find? kind.name members with
  | none => others.of kind = lists.of kind
  | some value => WritesTexts value (others.of kind) ∧
    (kind = .aws → ∀ name ∈ others.of kind, isAwsPrincipal name = true)

section Principals

variable {members : Json.Members Json} {lists others : PrincipalLists} {kind other : PrincipalKind}

/-- Where no member is there for a kind, the old list is left. -/
theorem writesOver_of_not_mem (absent : kind.name ∉ Json.names members) :
    WritesOver members lists others kind ↔ others.of kind = lists.of kind := by
  rw [WritesOver, Json.find?_eq_none_iff.mpr absent]

/-- The first member writes the list of its kind. -/
theorem writesOver_cons_self {value : Json} :
    WritesOver ((kind.name, value) :: members) lists others kind ↔
      WritesTexts value (others.of kind) ∧
        (kind = .aws → ∀ name ∈ others.of kind, isAwsPrincipal name = true) := by
  rw [WritesOver, Json.find?_cons_self]

/-- The first member has nothing to do with the lists of other kinds, whatever it sets. -/
theorem writesOver_cons_of_ne (different : other ≠ kind) {value : Json} {names : List String} :
    WritesOver ((kind.name, value) :: members) lists others other ↔
      WritesOver members (lists.set kind names) others other := by
  have apart : kind.name ≠ other.name :=
    fun same => different (PrincipalKind.name_injective same).symm
  rw [WritesOver, WritesOver, Json.find?_cons_of_ne apart, PrincipalLists.of_set, if_neg different]

/-- Principals are read from members that name each kind once, kind by kind. -/
theorem foldlM_readPrincipals_eq_ok_iff (once : (Json.names members).Nodup) :
    members.foldlM (readPrincipals field) lists = .ok others ↔
      (∀ name ∈ Json.names members, ∃ kind : PrincipalKind, kind.name = name) ∧
        ∀ kind, WritesOver members lists others kind := by
  induction members generalizing lists with
  | nil =>
    have same : lists = others ↔ ∀ kind, WritesOver [] lists others kind :=
      ⟨fun same _ => same ▸ rfl, fun each => PrincipalLists.eq_of_forall_of fun kind =>
        (each kind).symm⟩
    simp [← same, Json.names, pure, Except.pure]
  | cons first later ih =>
    obtain ⟨name, value⟩ := first
    obtain ⟨fresh, onceLater⟩ : name ∉ Json.names later ∧ (Json.names later).Nodup :=
      List.nodup_cons.mp once
    rw [List.foldlM_cons]
    simp only [bind_eq_ok_iff, readPrincipals_eq_ok_iff, ih onceLater]
    constructor
    · rintro ⟨_, ⟨kind, names, rfl, texts, checked, rfl⟩, known, each⟩
      refine ⟨List.forall_mem_cons.mpr ⟨⟨kind, rfl⟩, known⟩, fun other => ?_⟩
      by_cases same : other = kind
      · -- No later member has this kind, so its list is the one that was set here.
        subst same
        have kept := (writesOver_of_not_mem fresh).mp (each other)
        rw [PrincipalLists.of_set, if_pos rfl] at kept
        rw [writesOver_cons_self, kept]
        exact ⟨texts, checked⟩
      · exact (writesOver_cons_of_ne same).mpr (each other)
    · rintro ⟨known, each⟩
      obtain ⟨⟨kind, named⟩, knownLater⟩ := List.forall_mem_cons.mp known
      simp only at named
      subst named
      obtain ⟨texts, checked⟩ := writesOver_cons_self.mp (each kind)
      refine ⟨_, ⟨kind, others.of kind, rfl, texts, checked, rfl⟩, knownLater, fun other => ?_⟩
      by_cases same : other = kind
      · subst same
        rw [writesOver_of_not_mem fresh, PrincipalLists.of_set, if_pos rfl]
      · exact (writesOver_cons_of_ne same).mp (each other)

/-- Beginning with empty lists, the list of a kind is what a member writes, or stays empty. -/
theorem writesOver_empty_iff :
    WritesOver members .empty others kind ↔
      WritesNames (Json.find? kind.name members) (others.of kind) ∧
        (kind = .aws → ∀ name ∈ others.of kind, isAwsPrincipal name = true) := by
  have empty : PrincipalLists.empty.of kind = [] := by cases kind <;> rfl
  unfold WritesOver
  cases Json.find? kind.name members with
  | none =>
    rw [empty]
    constructor
    · intro nothing
      rw [nothing]
      exact ⟨.missing, by simp⟩
    · rintro ⟨absent, -⟩
      generalize others.of kind = names at absent
      cases absent
      rfl
  | some value =>
    constructor
    · rintro ⟨texts, checked⟩
      exact ⟨.there texts, checked⟩
    · rintro ⟨written, checked⟩
      cases written with
      | there texts => exact ⟨texts, checked⟩

/-- A block is read where an object of distinct members, or the wildcard, writes it. -/
theorem readBlock_eq_ok_iff (distinct : value.Distinct) {block : PrincipalBlock} :
    readBlock field value = .ok block ↔
      WritesBlock value block ∧ ∀ name ∈ block.lists.aws, isAwsPrincipal name = true := by
  unfold readBlock
  split
  · rename_i text
    split
    · rename_i wildcard
      subst wildcard
      constructor
      · rintro ⟨⟩
        exact ⟨.everyone, by simp [PrincipalBlock.lists, PrincipalLists.empty]⟩
      · rintro ⟨⟨⟩, -⟩
        rfl
    · rename_i other
      refine iff_of_false (by simp) ?_
      rintro ⟨⟨⟩, -⟩
      exact other rfl
  · rename_i members
    have once := (Json.distinct_object_iff.mp distinct).1
    split
    · rename_i empty
      refine iff_of_false (by simp) ?_
      rintro ⟨written, -⟩
      cases written with
      | listed filled => exact filled (by simpa using empty)
    · rename_i filled
      simp only [map_eq_ok_iff, foldlM_readPrincipals_eq_ok_iff once, writesOver_empty_iff]
      constructor
      · rintro ⟨lists, ⟨known, each⟩, rfl⟩
        exact ⟨.listed (by simpa using filled) known fun kind => (each kind).1,
          (each .aws).2 rfl⟩
      · rintro ⟨written, checked⟩
        cases written with
        | listed _ known each =>
          refine ⟨_, ⟨known, fun kind => ⟨each kind, ?_⟩⟩, rfl⟩
          rintro rfl
          exact checked
  · rename_i texts objects
    refine iff_of_false (by simp) ?_
    rintro ⟨written, -⟩
    cases written with
    | everyone => exact texts _ rfl
    | listed => exact objects _ rfl

end Principals

/-- The principal element is read where at most one spelling is there, and writes principals. -/
theorem readPrincipalElement_eq_ok_iff {members : Json.Members Json}
    (distinct : (Json.object members).Distinct) {selection : Option (Selection PrincipalBlock)} :
    readPrincipalElement members = .ok selection ↔
      WritesSelection (fun value block => WritesBlock value block ∧
        ∀ name ∈ block.lists.aws, isAwsPrincipal name = true) "Principal" members selection := by
  have reads : ∀ member ∈ members, ∀ field block, readBlock field member.2 = .ok block ↔
      WritesBlock member.2 block ∧ ∀ name ∈ block.lists.aws, isAwsPrincipal name = true :=
    fun member inside _ _ =>
      readBlock_eq_ok_iff ((Json.distinct_object_iff.mp distinct).2 member inside)
  cases selection with
  | none =>
    rw [← findSpelling_eq_none_iff, readPrincipalElement]
    rcases findSpelling "Principal" members with fault | _ | spelling <;> simp [map_eq_ok_iff]
  | some selection =>
    rw [writesSelection_some_iff reads, readPrincipalElement]
    rcases findSpelling "Principal" members with fault | _ | spelling <;> simp [map_eq_ok_iff]

end Reader

end Policy

end AccessPolicy
