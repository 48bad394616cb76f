import AccessPolicy.Proofs.Context.Pairs
import AccessPolicy.Proofs.Request

/-!
Merging contexts: entries can be grouped into contexts first, in any way, and added group by group.

Values under a name that is there already can be added before or after values under other names.
From this step it follows, entry by entry, that the entries of a context lead to the same result as
the entries that it was built of. So merging is associative, the context without names changes
nothing, and a merged context has the values of all sources in their order.
-/

namespace AccessPolicy.Context

section Entries

variable {name other : String} {values further : List String}
  {entries : List (String × List String)}

/-- Values that are put under one name twice are put there together. -/
theorem append_append_self :
    append name further (append name values entries) =
      append name (values ++ further) entries := by
  induction entries with
  | nil => simp [append]
  | cons entry later ih =>
    by_cases found : entry.1 = name
    · simp [append, found]
    · simp [append, found, ih]

/-- Values go to a name that is there whether or not another name was given values before. -/
theorem append_append_comm (listed : name ∈ entries.map Prod.fst) (different : other ≠ name) :
    append name values (append other further entries) =
      append other further (append name values entries) := by
  induction entries with
  | nil => cases listed
  | cons entry later ih =>
    obtain ⟨first, old⟩ := entry
    by_cases found : first = name
    · -- The other name is behind this one, or it is new.
      subst found
      simp [append, Ne.symm different]
    · have behind : name ∈ later.map Prod.fst := by simpa [Ne.symm found] using listed
      by_cases same : first = other
      · simp [append, same, different]
      · simp [append, found, same, ih behind]

/-- Values under a new name stand behind all entries. -/
theorem append_of_not_mem (missing : name ∉ entries.map Prod.fst) :
    append name values entries = entries ++ [(name, values)] := by
  induction entries with
  | nil => rfl
  | cons entry later ih =>
    obtain ⟨first, others⟩ := not_or.mp (mt List.mem_cons.mpr missing)
    rw [append, if_neg (Ne.symm first), ih others, List.cons_append]

end Entries

section Groups

variable {context group : Context} {name other : String} {values further : List String}
  {entries : List (String × List String)}

/-- Values are added alike under a name and under its lower case. -/
theorem add_lower : context.add (Text.lower name) values = context.add name values := by
  unfold add
  rw [Text.lower_lower]

/-- Values that are added under one name twice are added together. -/
theorem add_add_self :
    (context.add name values).add name further = context.add name (values ++ further) :=
  congrArg mk append_append_self

/-- Values are added to a name that is there before or after those of another name. -/
theorem add_add_comm (listed : Text.lower name ∈ context.entries.map Prod.fst)
    (different : Text.lower other ≠ Text.lower name) :
    (context.add other further).add name values = (context.add name values).add other further :=
  congrArg mk (append_append_comm listed different)

/-- Values are added to a name that is there before or after entries under other names. -/
theorem addAll_add (listed : Text.lower name ∈ context.entries.map Prod.fst)
    (different : ∀ entry ∈ entries, Text.lower entry.1 ≠ Text.lower name) :
    (context.add name values).addAll entries = (context.addAll entries).add name values := by
  induction entries generalizing context with
  | nil => rfl
  | cons entry later ih =>
    obtain ⟨first, others⟩ := List.forall_mem_cons.mp different
    have kept : Text.lower name ∈ (context.add entry.1 entry.2).entries.map Prod.fst :=
      (appends_append _ _).mem_keys.mpr (Or.inr listed)
    rw [addAll_cons, ← add_add_comm listed first, ih kept others, addAll_cons]

/-- An entry that is put among others leads to what it leads to behind them. -/
theorem addAll_append_name (lowered : ∀ entry ∈ entries, Text.lower entry.1 = entry.1)
    (distinct : (entries.map Prod.fst).Nodup) :
    context.addAll (append (Text.lower name) values entries) =
      (context.addAll entries).add name values := by
  induction entries generalizing context with
  | nil => exact add_lower
  | cons entry later ih =>
    obtain ⟨first, old⟩ := entry
    obtain ⟨low, lowers⟩ := List.forall_mem_cons.mp lowered
    obtain ⟨new, apart⟩ := List.nodup_cons.mp distinct
    rw [append]
    split
    · rename_i found
      -- The values were joined to those of their name, and no later entry has this name.
      have named : context.add (Text.lower name) (old ++ values) =
          (context.add first old).add name values := by
        rw [add_lower, found, add_lower, add_add_self]
      have there : Text.lower name ∈ (context.add first old).entries.map Prod.fst :=
        (appends_append _ _).mem_keys.mpr (Or.inl (found.symm.trans low.symm))
      have others : ∀ entry ∈ later, Text.lower entry.1 ≠ Text.lower name := by
        intro entry inside same
        rw [lowers entry inside, ← found] at same
        exact new (List.mem_map.mpr ⟨entry, inside, same⟩)
      rw [addAll_cons, named, addAll_add there others, addAll_cons]
    · rw [addAll_cons, ih lowers apart, addAll_cons]

/-- Entries lead to the same context whether or not they are added to a group first. -/
theorem addAll_entries_addAll (orderly : group.Orderly) :
    context.addAll (group.addAll entries).entries =
      (context.addAll group.entries).addAll entries := by
  induction entries generalizing group with
  | nil => rfl
  | cons entry later ih =>
    have step : context.addAll (group.add entry.1 entry.2).entries =
        (context.addAll group.entries).add entry.1 entry.2 :=
      addAll_append_name orderly.lowered orderly.distinct
    rw [addAll_cons, ih (orderly.add entry.1 entry.2), step, addAll_cons]

/-- The entries of a context lead to what those lead to that it is built of. -/
theorem addAll_ofEntries :
    context.addAll (ofEntries entries).entries = context.addAll entries :=
  addAll_entries_addAll orderly_empty

/-- Entries under different new names in lower case are added as they are. -/
theorem entries_addAll_of_new (lowered : ∀ entry ∈ entries, Text.lower entry.1 = entry.1)
    (distinct : ((context.entries ++ entries).map Prod.fst).Nodup) :
    (context.addAll entries).entries = context.entries ++ entries := by
  induction entries generalizing context with
  | nil => simp [addAll]
  | cons entry later ih =>
    obtain ⟨low, lowers⟩ := List.forall_mem_cons.mp lowered
    have missing : entry.1 ∉ context.entries.map Prod.fst := by
      intro inside
      rw [List.map_append, List.nodup_append] at distinct
      exact distinct.2.2 entry.1 inside entry.1 (by simp) rfl
    have added : (context.add entry.1 entry.2).entries = context.entries ++ [entry] := by
      rw [add, low, append_of_not_mem missing]
    rw [addAll_cons, ih lowers (by rwa [added, List.append_assoc]), added, List.append_assoc]
    rfl

/-- An orderly context is what its own entries make. -/
theorem Orderly.ofEntries_entries (orderly : context.Orderly) :
    ofEntries context.entries = context := by
  have added : (empty.addAll context.entries).entries = [] ++ context.entries :=
    entries_addAll_of_new orderly.lowered orderly.distinct
  calc ofEntries context.entries = ⟨(empty.addAll context.entries).entries⟩ := rfl
    _ = context := by rw [added, List.nil_append]

end Groups

/-- Contexts of entries merge to the context of all these entries. -/
theorem merge_map_ofEntries (groups : List (List (String × List String))) :
    merge (groups.map ofEntries) = ofEntries groups.flatten := by
  have grouped (context : Context) :
      context.addAll ((groups.map ofEntries).flatMap entries) = context.addAll groups.flatten := by
    induction groups generalizing context with
    | nil => rfl
    | cons group later ih =>
      rw [List.map_cons, List.flatMap_cons, addAll_append, addAll_ofEntries, ih,
        List.flatten_cons, addAll_append]
  exact grouped empty

/-- Two contexts of entries merge to the context of both lists in a row. -/
theorem merge_ofEntries (first second : List (String × List String)) :
    merge [ofEntries first, ofEntries second] = ofEntries (first ++ second) := by
  simpa using merge_map_ofEntries [first, second]

/-- A merged context among the sources stands for its own sources. -/
theorem merge_append_merge (before group after : List Context) :
    merge (before ++ merge group :: after) = merge (before ++ group ++ after) := by
  calc merge (before ++ merge group :: after)
      = ((empty.addAll (before.flatMap entries)).addAll
          (ofEntries (group.flatMap entries)).entries).addAll (after.flatMap entries) := by
        rw [← addAll_append, ← addAll_append, ← List.append_assoc]
        simp [merge, ofEntries, addAll]
    _ = ((empty.addAll (before.flatMap entries)).addAll
          (group.flatMap entries)).addAll (after.flatMap entries) := by
        rw [addAll_ofEntries]
    _ = merge (before ++ group ++ after) := by
        rw [← addAll_append, ← addAll_append]
        simp [merge, ofEntries, addAll]

/-- Three contexts are merged alike whichever two of them are merged first. -/
theorem merge_merge (first second third : Context) :
    merge [merge [first, second], third] = merge [first, merge [second, third]] := by
  -- Both sides are the merge of all three.
  calc merge [merge [first, second], third] = merge [first, second, third] :=
        merge_append_merge [] [first, second] [third]
    _ = merge [first, merge [second, third]] :=
        (merge_append_merge [first] [second, third] []).symm

/-- The context without names can be left out of a merge. -/
theorem merge_append_empty (before after : List Context) :
    merge (before ++ empty :: after) = merge (before ++ after) := by
  -- It is the merge of no sources.
  calc merge (before ++ empty :: after) = merge (before ++ merge [] :: after) := rfl
    _ = merge (before ++ after) := by rw [merge_append_merge, List.append_nil]

/-- An orderly context is merged with the context without names to itself. -/
theorem Orderly.merge_empty {context : Context} (orderly : context.Orderly) :
    merge [empty, context] = context ∧ merge [context, empty] = context := by
  have alone : merge [context] = context := by
    rw [merge, List.flatMap_singleton, orderly.ofEntries_entries]
  exact ⟨(merge_append_empty [] [context]).trans alone,
    (merge_append_empty [context] []).trans alone⟩

/-- No two names in a merged context differ in letter case alone. -/
theorem nodup_lower_merge (sources : List Context) :
    ((merge sources).entries.map fun entry => Text.lower entry.1).Nodup := by
  obtain ⟨lowered, distinct⟩ := orderly_merge sources
  rwa [List.map_congr_left lowered]

/-- Pairs in two lists describe what the contexts of both lists merge to. -/
theorem ofPairs_append {pairs others : List String} {first second : Context}
    (here : ofPairs pairs = .ok first) (there : ofPairs others = .ok second) :
    ofPairs (pairs ++ others) = .ok (merge [first, second]) := by
  obtain ⟨entries, gives, rfl⟩ := ofPairs_eq_ok_iff.mp here
  obtain ⟨further, givesToo, rfl⟩ := ofPairs_eq_ok_iff.mp there
  exact ofPairs_eq_ok_iff.mpr
    ⟨entries ++ further, List.rel_append gives givesToo, merge_ofEntries entries further⟩

/-- A context as the members of an object, with a list of texts under each name. -/
def members (context : Context) : List (String × Json) :=
  -- Names without values have an empty list.
  context.entries.map fun entry => (entry.1, .array (entry.2.map .string))

/-- The members of a context describe what its entries make. -/
theorem ofMembers_members (context : Context) :
    ofMembers context.members = .ok (ofEntries context.entries) :=
  ofMembers_eq_ok_iff.mpr ⟨context.entries, List.forall₂_map_left_iff.mpr
    (List.forall₂_same.mpr fun entry _ => ⟨rfl, .list entry.2⟩), rfl⟩

/-- An orderly context is described by its own members. -/
theorem Orderly.ofMembers_members {context : Context} (orderly : context.Orderly) :
    ofMembers context.members = .ok context := by
  rw [Context.ofMembers_members, orderly.ofEntries_entries]

/-- Reading the members of an orderly context into a request leaves it as it is. -/
theorem Orderly.make_request {context : Context} (orderly : context.Orderly)
    {action resource : String} (principal : Option Principal) (acts : action ≠ "")
    (named : resource ≠ "") :
    Request.make (some (.string action)) (some (.string resource)) principal
      (Request.contextOf (some (.object context.members))) =
        .ok ⟨action, resource, principal, context⟩ := by
  have read : Request.contextOf (some (.object context.members)) = .ok context := by
    rw [Request.contextOf, orderly.ofMembers_members]
  rw [read]
  exact Request.make_eq_ok_iff.mpr ⟨acts, named, rfl⟩

/--
Merging contexts loses no value, and contexts are a monoid under it.

The sources are objects whose members each give texts. The contexts that they describe are merged,
and a request is built with the result. It has all values of a name in their order, however the name
is spelled, and none exactly where no source has the name. Contexts of pairs merge to the context of
all pairs, and texts are refused where one of them has no key, for the first such text.
-/
theorem merge_gathers :
    (∀ (sources : List (List (String × Json))) (given : List (List (String × List String))),
      List.Forall₂ (List.Forall₂ MemberGives) sources given →
      ∃ contexts,
        List.Forall₂ (fun source context => ofMembers source = .ok context) sources contexts ∧
        (∀ action resource principal, action ≠ "" → resource ≠ "" →
          Request.make (some (.string action)) (some (.string resource)) principal
              (Request.contextOf (some (.object (merge contexts).members))) =
            .ok ⟨action, resource, principal, merge contexts⟩) ∧
        ∀ name,
          ((merge contexts).values? name = none ↔
            ∀ entry ∈ given.flatten, Text.lower entry.1 ≠ Text.lower name) ∧
          ((merge contexts).values? name).getD [] = collected given.flatten name) ∧
    (∀ source context, ofMembers source = .ok context →
      context.Orderly ∧ ofMembers context.members = .ok context) ∧
    (∀ first second third,
      merge [merge [first, second], third] = merge [first, merge [second, third]]) ∧
    (∀ before after, merge (before ++ empty :: after) = merge (before ++ after)) ∧
    (∀ context : Context, context.Orderly →
      merge [empty, context] = context ∧ merge [context, empty] = context) ∧
    (∀ sources, ((merge sources).entries.map fun entry => Text.lower entry.1).Nodup) ∧
    (∀ pairs others first second, ofPairs pairs = .ok first → ofPairs others = .ok second →
      ofPairs (pairs ++ others) = .ok (merge [first, second])) ∧
    ∀ pairs, ((∃ fault, ofPairs pairs = .error fault) ↔ ∃ pair ∈ pairs, IsKeyless pair) ∧
      ∀ fault, ofPairs pairs = .error fault ↔
        ∃ pair, IsFirstWithout IsPair pairs pair ∧ fault = .pairWithoutKey pair := by
  refine ⟨fun sources given all => ⟨given.map ofEntries, ?_, ?_, fun name => ?_⟩, ?_, merge_merge,
    merge_append_empty, fun _ orderly => orderly.merge_empty, nodup_lower_merge,
    fun _ _ _ _ here there => ofPairs_append here there,
    fun _ => ⟨exists_ofPairs_eq_error_iff, fun _ => ofPairs_eq_error_iff⟩⟩
  · exact List.forall₂_map_right_iff.mpr
      (all.imp fun _ entries gives => ofMembers_eq_ok_iff.mpr ⟨entries, gives, rfl⟩)
  · intro action resource principal acts named
    exact (orderly_merge _).make_request principal acts named
  · -- The merged context is the one of all entries, so its values are those collected from them.
    rw [merge_map_ofEntries]
    exact ⟨values?_ofEntries_eq_none_iff, values?_ofEntries _ name⟩
  · intro source context described
    obtain ⟨entries, -, rfl⟩ := ofMembers_eq_ok_iff.mp described
    have orderly := orderly_ofEntries entries
    exact ⟨orderly, orderly.ofMembers_members⟩

/-- Two sources that spell one name differently, and a name without values in the second. -/
def addressSources : List (List (String × Json)) :=
  -- A single text stands for a list of one.
  [[("AWS:SourceIp", .string "10.0.0.1")],
    [("team", .array []), ("aws:sourceIP", .array [.string "10.0.0.2", .string ""])]]

/-- The entries that these sources give. -/
def addressEntries : List (List (String × List String)) :=
  -- Names are still as they were written.
  [[("AWS:SourceIp", ["10.0.0.1"])], [("team", []), ("aws:sourceIP", ["10.0.0.2", ""])]]

/-- Every source gives its entries. -/
theorem gives_addressEntries :
    List.Forall₂ (List.Forall₂ MemberGives) addressSources addressEntries :=
  .cons (.cons ⟨rfl, .single "10.0.0.1"⟩ .nil)
    (.cons (.cons ⟨rfl, .list []⟩ (.cons ⟨rfl, .list ["10.0.0.2", ""]⟩ .nil)) .nil)

/-- Addresses from two sources are found together, and pairs in two lists describe one context. -/
theorem merge_gathers_addresses :
    (∃ contexts : List Context,
      Request.make (some (.string "s3:GetObject")) (some (.string "*")) none
          (Request.contextOf (some (.object (merge contexts).members))) =
        .ok ⟨"s3:GetObject", "*", none, merge contexts⟩ ∧
      ((merge contexts).values? "AWS:SOURCEIP").getD [] = ["10.0.0.1", "10.0.0.2", ""] ∧
      (merge contexts).values? "Team" ≠ none ∧ (merge contexts).values? "other" = none) ∧
    ofMembers (members ⟨[("team", ["ops"])]⟩) = .ok ⟨[("team", ["ops"])]⟩ ∧
    merge [empty, ⟨[("team", ["ops"])]⟩] = ⟨[("team", ["ops"])]⟩ ∧
    ofPairs (["team=ops"] ++ [" Team =a=b"]) =
      .ok (merge [⟨[("team", ["ops"])]⟩, ⟨[("team", ["a=b"])]⟩]) ∧
    ∃ fault, ofPairs ["team=ops", " =b"] = .error fault := by
  obtain ⟨gathers, normal, -, -, idle, -, joins, refuses⟩ := merge_gathers
  obtain ⟨contexts, -, built, found⟩ := gathers addressSources addressEntries gives_addressEntries
  have read : ofMembers [("TEAM", .string "ops")] = .ok ⟨[("team", ["ops"])]⟩ :=
    eq_ok_of_toOption (by decide)
  obtain ⟨orderly, again⟩ := normal _ _ read
  refine ⟨⟨contexts, built _ _ none (by decide) (by decide), ?_, ?_, ?_⟩, again,
    (idle _ orderly).1, ?_, ?_⟩
  · rw [(found "AWS:SOURCEIP").2]
    decide
  · rw [ne_eq, (found "Team").1]
    decide
  · rw [(found "other").1]
    decide
  · exact joins _ _ _ _ (eq_ok_of_toOption (by decide))
      (eq_ok_of_toOption (by decide))
  · exact (refuses _).1.mpr ⟨" =b", by decide,
      Or.inr ⟨[' '], ['b'], rfl, List.forall_mem_singleton.mpr rfl⟩⟩

end AccessPolicy.Context
