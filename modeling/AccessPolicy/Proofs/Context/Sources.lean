import AccessPolicy.Proofs.Context
import AccessPolicy.Proofs.Json.Members
import AccessPolicy.Proofs.Result
import AccessPolicy.Proofs.Text.LowerCase

/-!
Where the values of a context come from: items that each give an entry, and other contexts.

Contexts are built by adding values under lower-case names. Merging lower-cases these names again,
which changes nothing, so that a merged context has the values of its sources one after the other.
-/

namespace AccessPolicy

/-- The members of the object to which names lead, one inside the other. -/
def Json.membersAt : List String → Json → List (String × Json)
  -- Names that lead to anything else lead to no members.
  | [], .object members => members
  | name :: later, .object members => ((Json.find? name members).map (membersAt later)).getD []
  | _, _ => []

namespace Context

/-- Names are in lower case, and none of them occurs twice. -/
structure Orderly (context : Context) : Prop where
  lowered : ∀ entry ∈ context.entries, Text.lower entry.1 = entry.1
  distinct : (context.entries.map Prod.fst).Nodup

/-- The context without names is orderly. -/
theorem orderly_empty : empty.Orderly := ⟨by simp [empty], by simp [empty]⟩

/-- Adding values under a name leaves a context orderly. -/
theorem Orderly.add {context : Context} (orderly : context.Orderly) (name : String)
    (values : List String) : (context.add name values).Orderly where
  lowered := by
    intro entry inside
    have named := (appends_append _ values).mem_keys.mp (List.mem_map_of_mem inside)
    rcases named with same | there
    · rw [same, Text.lower_lower]
    · obtain ⟨old, member, same⟩ := List.mem_map.mp there
      rw [← same, orderly.lowered old member]
  distinct := (appends_append _ values).nodup_keys orderly.distinct

/-- The values collected from the entries of an orderly context are those under the name. -/
theorem Orderly.collected_entries {context : Context} (orderly : context.Orderly) (name : String) :
    collected context.entries name = (context.values? name).getD [] := by
  obtain ⟨entries⟩ := context
  obtain ⟨lowered, distinct⟩ := orderly
  unfold values?
  induction entries with
  | nil => rfl
  | cons entry later ih =>
    obtain ⟨low, lowers⟩ := List.forall_mem_cons.mp lowered
    obtain ⟨new, distinct⟩ := List.nodup_cons.mp distinct
    have rest := ih lowers distinct
    rw [collected_cons, low, rest, List.lookup_cons]
    by_cases same : entry.1 = Text.lower name
    · -- No later entry has the name, since it would be the same name.
      have absent : later.lookup (Text.lower name) = none := by
        rw [lookup_eq_none_iff_not_mem, ← same]
        exact new
      simp [same, absent]
    · have differs : (Text.lower name == entry.1) = false :=
        beq_eq_false_iff_ne.mpr (Ne.symm same)
      simp [same, differs]

/-- A merged context has the values of its sources under every name, source by source. -/
theorem values?_merge {sources : List Context} (orderly : ∀ source ∈ sources, source.Orderly)
    (name : String) :
    ((merge sources).values? name).getD [] =
      sources.flatMap fun source => (source.values? name).getD [] := by
  rw [merge, values?_ofEntries]
  induction sources with
  | nil => rfl
  | cons source later ih =>
    obtain ⟨here, others⟩ := List.forall_mem_cons.mp orderly
    rw [List.flatMap_cons, List.flatMap_cons, ← here.collected_entries name, ← ih others]
    simp [collected]

/-- Adding further entries leaves a context orderly. -/
theorem Orderly.addAll {context : Context} (orderly : context.Orderly)
    (entries : List (String × List String)) : (context.addAll entries).Orderly := by
  induction entries generalizing context with
  | nil => exact orderly
  | cons entry later ih => exact ih (orderly.add entry.1 entry.2)

/-- A context that is built of entries is orderly. -/
theorem orderly_ofEntries (entries : List (String × List String)) : (ofEntries entries).Orderly :=
  orderly_empty.addAll entries

/-- Merging leads to an orderly context. -/
theorem orderly_merge (sources : List Context) : (merge sources).Orderly :=
  orderly_ofEntries _

/-- A run of steps that each add an entry adds the entries of all items, in their order. -/
theorem foldlM_eq_ok_iff {ι : Type} {step : Context → ι → Except Fault Context}
    {gives : ι → String × List String → Prop}
    (adds : ∀ context item next, step context item = .ok next ↔
      ∃ entry, gives item entry ∧ next = context.add entry.1 entry.2)
    {items : List ι} {start result : Context} :
    items.foldlM step start = .ok result ↔
      ∃ entries, List.Forall₂ gives items entries ∧ result = start.addAll entries := by
  induction items generalizing start with
  | nil => simp [pure, Except.pure, addAll, eq_comm]
  | cons item later ih =>
    rw [List.foldlM_cons, bind_eq_ok_iff]
    constructor
    · rintro ⟨next, added, behind⟩
      obtain ⟨entry, given, rfl⟩ := (adds start item next).mp added
      obtain ⟨entries, others, rfl⟩ := ih.mp behind
      exact ⟨entry :: entries, .cons given others, rfl⟩
    · rintro ⟨_, _ | ⟨given, others⟩, rfl⟩
      exact ⟨_, (adds start item _).mpr ⟨_, given, rfl⟩, ih.mpr ⟨_, others, rfl⟩⟩

/-- There is a context of the entries that items give exactly where each of them gives one. -/
theorem exists_eq_ok_iff {ι : Type} {gives : ι → String × List String → Prop} {items : List ι}
    {result : Except Fault Context}
    (reads : ∀ context, result = .ok context ↔
      ∃ entries, List.Forall₂ gives items entries ∧ context = ofEntries entries) :
    (∃ context, result = .ok context) ↔ ∀ item ∈ items, ∃ entry, gives item entry := by
  simp only [reads, ← exists_forall₂_iff]
  constructor
  · rintro ⟨_, entries, all, -⟩
    exact ⟨entries, all⟩
  · rintro ⟨entries, all⟩
    exact ⟨_, entries, all, rfl⟩

/-- Entries that items give one by one are collected item by item. -/
theorem collected_of_forall₂ {ι : Type} {gives : ι → String × List String → Prop}
    {given : ι → String → List String}
    (each : ∀ item entry name, gives item entry →
      given item name = if Text.lower entry.1 = Text.lower name then entry.2 else [])
    {items : List ι} {entries : List (String × List String)}
    (all : List.Forall₂ gives items entries) (name : String) :
    collected entries name = items.flatMap fun item => given item name := by
  induction all with
  | nil => rfl
  | cons here _ ih => rw [collected_cons, List.flatMap_cons, each _ _ name here, ih]

/-- The texts that a member of an object gives for a name. -/
def memberValues (member : String × Json) (name : String) : List String :=
  -- Letter case does not count in names.
  if Text.lower member.1 = Text.lower name then (valuesOf? member.2).getD [] else []

/-- A value gives texts: a single one by itself, or any number in a list. -/
inductive GivesTexts : Json → List String → Prop where
  | single (text : String) : GivesTexts (.string text) [text]
  | list (texts : List String) : GivesTexts (.array (texts.map .string)) texts

/-- Reading a value finds the texts that it gives. -/
theorem valuesOf?_eq_some_iff {value : Json} {texts : List String} :
    valuesOf? value = some texts ↔ GivesTexts value texts := by
  constructor
  · intro read
    unfold valuesOf? at read
    split at read
    · cases read
      exact .single _
    · rw [Json.mapM_string?_eq_some_iff.mp read]
      exact .list texts
    · cases read
  · intro gives
    cases gives with
    | single text => rfl
    | list => exact Json.mapM_string?_eq_some_iff.mpr rfl

/-- A member of an object gives an entry of its texts under its name. -/
structure MemberGives (member : String × Json) (entry : String × List String) : Prop where
  name : entry.1 = member.1
  texts : GivesTexts member.2 entry.2

/-- Members describe a context exactly where each gives an entry, and that is built of these. -/
theorem ofMembers_eq_ok_iff {members : List (String × Json)} {context : Context} :
    ofMembers members = .ok context ↔
      ∃ entries, List.Forall₂ MemberGives members entries ∧ context = ofEntries entries := by
  refine foldlM_eq_ok_iff fun context member next => ?_
  unfold addMember
  split
  · rename_i missing
    refine iff_of_false (by simp) ?_
    rintro ⟨entry, gives, -⟩
    rw [valuesOf?_eq_some_iff.mpr gives.texts] at missing
    cases missing
  · rename_i values read
    rw [Except.ok.injEq]
    constructor
    · rintro rfl
      exact ⟨(member.1, values), ⟨rfl, valuesOf?_eq_some_iff.mp read⟩, rfl⟩
    · rintro ⟨entry, gives, rfl⟩
      have same := valuesOf?_eq_some_iff.mpr gives.texts
      rw [read, Option.some.injEq] at same
      rw [same, gives.name]

/-- A context of members has their texts under every name, in the order of the members. -/
theorem values?_ofMembers {members : List (String × Json)} {context : Context}
    (built : ofMembers members = .ok context) :
    context.Orderly ∧ ∀ name, (context.values? name).getD [] =
      members.flatMap fun member => memberValues member name := by
  obtain ⟨entries, all, rfl⟩ := ofMembers_eq_ok_iff.mp built
  refine ⟨orderly_ofEntries entries, fun name => ?_⟩
  rw [values?_ofEntries]
  refine collected_of_forall₂ (fun member entry name gives => ?_) all name
  rw [memberValues, valuesOf?_eq_some_iff.mpr gives.texts, gives.name]
  rfl

/-- The texts that the members of an object give for a name, in their order. -/
def valuesAt (path : List String) (tree : Json) (name : String) : List String :=
  (tree.membersAt path).flatMap fun member => memberValues member name

end Context

end AccessPolicy
