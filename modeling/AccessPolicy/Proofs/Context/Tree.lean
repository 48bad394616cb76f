import AccessPolicy.Proofs.Context.Merging

/-!
Context files: which trees describe a context for a resource, and which parts of them it is made of.

A tree says something about a resource in two places: in one for all resources, and in one under the
exact name of the resource. Each place has members, or nothing is there, and the context is that of
the members of both places in a row. So it depends on nothing else that the tree may hold.
-/

namespace AccessPolicy

/-- The value to which names lead, one inside the other. -/
def Json.at? : List String → Json → Option Json
  -- Only objects have values under names.
  | [], value => some value
  | name :: later, .object members => (Json.find? name members).bind (at? later)
  | _ :: _, _ => none

namespace Context

/-- What is found in a place has members if it is an object, and nothing has none. -/
inductive HasMembers : Option Json → List (String × Json) → Prop where
  | missing : HasMembers none []
  | object (members : List (String × Json)) : HasMembers (some (.object members)) members

/-- What is found in a place has members where it is an object, if anything is there. -/
theorem exists_hasMembers_iff {found : Option Json} :
    (∃ members, HasMembers found members) ↔
      ∀ value, found = some value → ∃ members, value = .object members := by
  constructor
  · rintro ⟨inner, has⟩ value there
    cases has with
    | missing => cases there
    | object => exact ⟨inner, (Option.some.inj there).symm⟩
  · intro objects
    cases found with
    | none => exact ⟨[], .missing⟩
    | some value =>
      obtain ⟨members, rfl⟩ := objects value rfl
      exact ⟨members, .object members⟩

/-- The members to which names lead are those of what is found there. -/
theorem HasMembers.membersAt {path : List String} {tree : Json} {members : List (String × Json)}
    (has : HasMembers (tree.at? path) members) : tree.membersAt path = members := by
  induction path generalizing tree with
  | nil =>
    cases has with
    | object => rfl
  | cons name later ih =>
    cases tree with
    | object outer =>
      rw [Json.membersAt]
      rw [Json.at?] at has
      cases inside : Json.find? name outer with
      | none =>
        rw [inside] at has
        cases has
        rfl
      | some value =>
        rw [inside] at has
        exact ih has
    | _ =>
      cases has
      rfl

/-- A section has the members of the object under its name, or none where that is missing. -/
theorem sectionOf_eq_ok_iff {members inner : List (String × Json)} {name : String} :
    sectionOf members name = .ok inner ↔ HasMembers (Json.find? name members) inner := by
  unfold sectionOf
  constructor
  · intro read
    split at read
    · rename_i missing
      cases read
      exact missing ▸ .missing
    · rename_i found
      cases read
      exact found ▸ .object inner
    · cases read
  · intro has
    generalize Json.find? name members = found at has
    cases has with
    | missing => rfl
    | object => rfl

/-- The context of a resource is that of the members under its exact name. -/
theorem ofResource_eq_ok_iff {resources : List (String × Json)} {resource : String}
    {context : Context} :
    ofResource resources resource = .ok context ↔
      ∃ members, HasMembers (Json.find? resource resources) members ∧
        ofMembers members = .ok context := by
  unfold ofResource
  constructor
  · intro read
    split at read
    · rename_i missing
      exact ⟨[], missing ▸ .missing, read⟩
    · rename_i members found
      exact ⟨members, found ▸ .object members, read⟩
    · cases read
  · rintro ⟨members, has, made⟩
    generalize Json.find? resource resources = found at has
    cases has with
    | missing => exact made
    | object => exact made

/-- Members in two lists describe what the contexts of both lists merge to. -/
theorem ofMembers_append_eq_ok_iff {first second : List (String × Json)} {context : Context} :
    ofMembers (first ++ second) = .ok context ↔
      ∃ here there, ofMembers first = .ok here ∧ ofMembers second = .ok there ∧
        context = merge [here, there] := by
  simp only [ofMembers_eq_ok_iff, forall₂_append_left_iff]
  constructor
  · rintro ⟨_, ⟨earlier, later, rfl, left, right⟩, rfl⟩
    exact ⟨_, _, ⟨earlier, left, rfl⟩, ⟨later, right, rfl⟩, (merge_ofEntries earlier later).symm⟩
  · rintro ⟨_, _, ⟨earlier, left, rfl⟩, ⟨later, right, rfl⟩, rfl⟩
    exact ⟨_, ⟨earlier, later, rfl, left, right⟩, merge_ofEntries earlier later⟩

/-- Members describe a context exactly where each of them gives texts. -/
theorem exists_ofMembers_eq_ok_iff {members : List (String × Json)} :
    (∃ context, ofMembers members = .ok context) ↔
      ∀ member ∈ members, ∃ texts, GivesTexts member.2 texts := by
  have gives (member : String × Json) :
      (∃ texts, GivesTexts member.2 texts) ↔ ∃ entry, MemberGives member entry := by
    constructor
    · rintro ⟨texts, given⟩
      exact ⟨(member.1, texts), rfl, given⟩
    · rintro ⟨entry, given⟩
      exact ⟨entry.2, given.texts⟩
  simp only [gives]
  exact exists_eq_ok_iff fun _ => ofMembers_eq_ok_iff

/-- A context of members has no values under a name exactly where no member has that name. -/
theorem values?_ofMembers_eq_none_iff {members : List (String × Json)} {context : Context}
    (built : ofMembers members = .ok context) {name : String} :
    context.values? name = none ↔
      ∀ member ∈ members, Text.lower member.1 ≠ Text.lower name := by
  obtain ⟨entries, all, rfl⟩ := ofMembers_eq_ok_iff.mp built
  rw [values?_ofEntries_eq_none_iff]
  constructor
  · intro others member inside
    obtain ⟨entry, there, gives⟩ := exists_of_mem_left all inside
    rw [← gives.name]
    exact others entry there
  · intro others entry inside
    obtain ⟨member, there, gives⟩ := exists_of_mem_left all.flip inside
    rw [gives.name]
    exact others member there

/-- A tree has the outline of a context file: it is an object of known sections alone. -/
def IsOutline (tree : Json) : Prop :=
  -- The section of resources is an object, whatever stands in it.
  ∃ members, tree = .object members ∧
    (∀ member ∈ members, member.1 = "global" ∨ member.1 = "resources") ∧
    ∀ value, tree.at? ["resources"] = some value → ∃ inner, value = .object inner

/-- A value describes a context: an object whose members each give texts. -/
def IsContext (value : Json) : Prop :=
  -- Names differ in letter case at will.
  ∃ members, value = .object members ∧ ∀ member ∈ members, ∃ texts, GivesTexts member.2 texts

/-- A tree describes a context for a resource, or for none. -/
structure IsContextFile (resource : Option String) (tree : Json) : Prop where
  outline : IsOutline tree
  shared : ∀ value, tree.at? ["global"] = some value → IsContext value
  own : ∀ asked ∈ resource, ∀ value, tree.at? ["resources", asked] = some value → IsContext value

/-- No section is unknown where every member is of a known one. -/
theorem unknown_isEmpty_iff {members : List (String × Json)} :
    ((Json.names members).filter fun name => !knownSections.contains name).isEmpty = true ↔
      ∀ member ∈ members, member.1 = "global" ∨ member.1 = "resources" := by
  simp [Json.names, knownSections, or_iff_not_imp_left]

/-- What is found in a section of an object is found under its name. -/
theorem at?_section {members : List (String × Json)} {name : String} :
    (Json.object members).at? [name] = Json.find? name members := by
  rw [Json.at?]
  cases Json.find? name members <;> rfl

/-- What is found under a name in a section is what its members have there. -/
theorem at?_inside {members inner : List (String × Json)} {name asked : String}
    (has : HasMembers (Json.find? name members) inner) :
    (Json.object members).at? [name, asked] = Json.find? asked inner := by
  rw [Json.at?]
  generalize Json.find? name members = found at has
  cases has with
  | missing => rfl
  | object => exact at?_section

/-- An object without unknown sections is read one place after the other. -/
theorem ofTree_object {members : List (String × Json)} {resource : Option String}
    (known : ∀ member ∈ members, member.1 = "global" ∨ member.1 = "resources") :
    ofTree (.object members) resource = (do
      let shared ← ofMembers (← sectionOf members "global")
      let resources ← sectionOf members "resources"
      match resource with
      | none => return shared
      | some resource => return merge [shared, ← ofResource resources resource]) := by
  unfold ofTree
  dsimp only
  rw [unknown_isEmpty_iff.mpr known]
  rfl

/-- An object with an unknown section describes no context. -/
theorem ofTree_unknown {members : List (String × Json)} {resource : Option String}
    (unknown : ¬ ∀ member ∈ members, member.1 = "global" ∨ member.1 = "resources") :
    ∃ fault, ofTree (.object members) resource = .error fault := by
  unfold ofTree
  dsimp only
  rw [Bool.eq_false_iff.mpr (mt unknown_isEmpty_iff.mp unknown)]
  exact ⟨_, rfl⟩

/-- A tree describes the context of the members in both places that count for the resource. -/
theorem ofTree_eq_ok_iff {tree : Json} {resource : Option String} {context : Context} :
    ofTree tree resource = .ok context ↔ IsOutline tree ∧ ∃ shared own,
      HasMembers (tree.at? ["global"]) shared ∧
      HasMembers (resource.bind fun asked => tree.at? ["resources", asked]) own ∧
      ofMembers (shared ++ own) = .ok context := by
  cases tree with
  | object members =>
    by_cases known : ∀ member ∈ members, member.1 = "global" ∨ member.1 = "resources"
    · have outlined : IsOutline (.object members) ↔
          ∃ resources, HasMembers (Json.find? "resources" members) resources := by
        rw [exists_hasMembers_iff, ← at?_section]
        constructor
        · rintro ⟨_, -, -, objects⟩
          exact objects
        · intro objects
          exact ⟨members, rfl, known, objects⟩
      rw [ofTree_object known, outlined, at?_section]
      simp only [bind_eq_ok_iff, sectionOf_eq_ok_iff]
      cases resource with
      | none =>
        constructor
        · rintro ⟨inner, global, shared, made, resources, listed, same⟩
          cases same
          exact ⟨⟨resources, listed⟩, inner, [], global, .missing, by rwa [List.append_nil]⟩
        · rintro ⟨⟨resources, listed⟩, inner, own, global, has, made⟩
          cases has
          rw [List.append_nil] at made
          exact ⟨inner, global, context, made, resources, listed, rfl⟩
      | some asked =>
        simp only [Option.bind_some, bind_eq_ok_iff, ofResource_eq_ok_iff]
        constructor
        · rintro ⟨inner, global, shared, made, resources, listed, own, ⟨owned, has, read⟩, same⟩
          cases same
          refine ⟨⟨resources, listed⟩, inner, owned, global, ?_, ?_⟩
          · rwa [at?_inside listed]
          · exact ofMembers_append_eq_ok_iff.mpr ⟨shared, own, made, read, rfl⟩
        · rintro ⟨⟨resources, listed⟩, inner, owned, global, has, both⟩
          rw [at?_inside listed] at has
          obtain ⟨shared, own, made, read, rfl⟩ := ofMembers_append_eq_ok_iff.mp both
          exact ⟨inner, global, shared, made, resources, listed, own, ⟨owned, has, read⟩, rfl⟩
    · obtain ⟨fault, refused⟩ : ∃ fault, ofTree (.object members) resource = .error fault :=
        ofTree_unknown known
      refine iff_of_false (by simp [refused]) ?_
      rintro ⟨⟨_, same, others, -⟩, -⟩
      cases same
      exact known others
  | _ =>
    refine iff_of_false (by simp [ofTree]) ?_
    rintro ⟨⟨_, same, -⟩, -⟩
    cases same

/-- What is found in a place has members that give texts if it is a context, or missing. -/
theorem exists_hasMembers_gives_iff {found : Option Json} :
    (∃ members, HasMembers found members ∧
      ∀ member ∈ members, ∃ texts, GivesTexts member.2 texts) ↔
        ∀ value, found = some value → IsContext value := by
  constructor
  · rintro ⟨members, has, gives⟩ value rfl
    cases has
    exact ⟨members, rfl, gives⟩
  · intro contexts
    cases found with
    | none => exact ⟨[], .missing, by simp⟩
    | some value =>
      obtain ⟨members, rfl, gives⟩ := contexts value rfl
      exact ⟨members, .object members, gives⟩

/-- A tree describes a context exactly where it is a context file for the resource. -/
theorem exists_ofTree_eq_ok_iff {tree : Json} {resource : Option String} :
    (∃ context, ofTree tree resource = .ok context) ↔ IsContextFile resource tree := by
  constructor
  · rintro ⟨context, read⟩
    obtain ⟨outline, shared, own, global, listed, made⟩ := ofTree_eq_ok_iff.mp read
    obtain ⟨gives, givesToo⟩ :=
      List.forall_mem_append.mp (exists_ofMembers_eq_ok_iff.mp ⟨context, made⟩)
    refine ⟨outline, exists_hasMembers_gives_iff.mp ⟨shared, global, gives⟩, ?_⟩
    rintro asked ⟨⟩
    exact exists_hasMembers_gives_iff.mp ⟨own, listed, givesToo⟩
  · rintro ⟨outline, described, owns⟩
    have ownDescribed : ∀ value,
        (resource.bind fun asked => tree.at? ["resources", asked]) = some value →
          IsContext value := by
      intro value there
      obtain ⟨asked, given, found⟩ := Option.bind_eq_some_iff.mp there
      exact owns asked given value found
    obtain ⟨shared, global, gives⟩ := exists_hasMembers_gives_iff.mpr described
    obtain ⟨own, listed, givesToo⟩ := exists_hasMembers_gives_iff.mpr ownDescribed
    obtain ⟨context, made⟩ :=
      exists_ofMembers_eq_ok_iff.mpr (List.forall_mem_append.mpr ⟨gives, givesToo⟩)
    exact ⟨context, ofTree_eq_ok_iff.mpr ⟨outline, shared, own, global, listed, made⟩⟩

/-- The members that count for a resource: those for all resources, and then its own. -/
def applying (resource : Option String) (tree : Json) : List (String × Json) :=
  -- Without a resource there are none of its own.
  tree.membersAt ["global"] ++
    resource.toList.flatMap fun asked => tree.membersAt ["resources", asked]

/-- A tree describes the context of the members that count for the resource. -/
theorem ofMembers_applying {tree : Json} {resource : Option String} {context : Context}
    (read : ofTree tree resource = .ok context) :
    ofMembers (applying resource tree) = .ok context := by
  obtain ⟨-, shared, own, global, listed, made⟩ := ofTree_eq_ok_iff.mp read
  have owned :
      (resource.toList.flatMap fun asked => tree.membersAt ["resources", asked]) = own := by
    cases resource with
    | none =>
      cases listed
      rfl
    | some asked => simpa using listed.membersAt
  rw [applying, owned, global.membersAt, made]

/-- A context file gives the texts for all resources, and then those for the one asked for. -/
theorem values?_ofTree {tree : Json} {resource : Option String} {context : Context}
    (read : ofTree tree resource = .ok context) :
    context.Orderly ∧ ∀ name, (context.values? name).getD [] =
      valuesAt ["global"] tree name ++
        resource.toList.flatMap fun resource => valuesAt ["resources", resource] tree name := by
  obtain ⟨orderly, values⟩ := values?_ofMembers (ofMembers_applying read)
  refine ⟨orderly, fun name => ?_⟩
  rw [values, applying, List.flatMap_append, List.flatMap_assoc]
  rfl

section Interference

variable {tree other : Json} {resource : Option String}

/-- Trees of one outline that agree in the places that count describe the same context, or none. -/
theorem toOption_ofTree_congr (outline : IsOutline tree ↔ IsOutline other)
    (global : tree.at? ["global"] = other.at? ["global"])
    (own : ∀ asked ∈ resource, tree.at? ["resources", asked] = other.at? ["resources", asked]) :
    (ofTree tree resource).toOption = (ofTree other resource).toOption := by
  have owns : (resource.bind fun asked => tree.at? ["resources", asked]) =
      resource.bind fun asked => other.at? ["resources", asked] :=
    Option.bind_congr own
  have same (context : Context) :
      ofTree tree resource = .ok context ↔ ofTree other resource = .ok context := by
    rw [ofTree_eq_ok_iff, ofTree_eq_ok_iff, outline, global, owns]
  exact Option.ext fun context => by
    rw [toOption_eq_some_iff, toOption_eq_some_iff, same]

/-- What other resources have is not read, so not even the fault of a tree depends on it. -/
theorem ofTree_put_resources {members inner changed : List (String × Json)}
    (own : ∀ asked ∈ resource, Json.find? asked inner = Json.find? asked changed) :
    ofTree (.object (Json.put "resources" (.object inner) members)) resource =
      ofTree (.object (Json.put "resources" (.object changed) members)) resource := by
  have names : Json.names (Json.put "resources" (Json.object inner) members) =
      Json.names (Json.put "resources" (Json.object changed) members) :=
    Json.names_put_eq _ _
  have global (value : Json) : sectionOf (Json.put "resources" value members) "global" =
      sectionOf members "global" := by
    rw [sectionOf, sectionOf, Json.find?_put_of_ne (by decide)]
  have listed (inner : List (String × Json)) :
      sectionOf (Json.put "resources" (.object inner) members) "resources" = .ok inner := by
    rw [sectionOf, Json.find?_put]
  unfold ofTree
  dsimp only
  rw [names, global, global, listed, listed]
  cases resource with
  | none => rfl
  | some asked =>
    have same : ofResource inner asked = ofResource changed asked := by
      rw [ofResource, ofResource, own asked rfl]
    simp only [Bind.bind, Except.bind, same]

end Interference

/--
A context file gives exactly the values that apply to a resource, and reveals nothing of the others.

A tree is accepted if it is a context file for the resource, or for none. Then every name has the
values for all resources and behind them those under the exact name of the resource, and it has none
where neither place has the name. Trees of one outline that agree in both places describe the same
context, or neither describes one. If they differ in the section of resources alone, and not in what
it has for this one, they even have the same fault.
-/
theorem ofTree_gives_applying (tree : Json) (resource : Option String) :
    ((∃ context, ofTree tree resource = .ok context) ↔ IsContextFile resource tree) ∧
    (∀ context, ofTree tree resource = .ok context → ∀ name,
      (context.values? name = none ↔
        ∀ member ∈ applying resource tree, Text.lower member.1 ≠ Text.lower name) ∧
      (context.values? name).getD [] =
        valuesAt ["global"] tree name ++
          resource.toList.flatMap fun asked => valuesAt ["resources", asked] tree name) ∧
    (∀ other, (IsOutline tree ↔ IsOutline other) → tree.at? ["global"] = other.at? ["global"] →
      (∀ asked ∈ resource, tree.at? ["resources", asked] = other.at? ["resources", asked]) →
      (ofTree tree resource).toOption = (ofTree other resource).toOption) ∧
    ∀ members inner changed,
      (∀ asked ∈ resource, Json.find? asked inner = Json.find? asked changed) →
      ofTree (.object (Json.put "resources" (.object inner) members)) resource =
        ofTree (.object (Json.put "resources" (.object changed) members)) resource := by
  refine ⟨exists_ofTree_eq_ok_iff, fun context read name => ⟨?_, (values?_ofTree read).2 name⟩,
    fun _ => toOption_ofTree_congr, fun _ _ _ => ofTree_put_resources⟩
  exact values?_ofMembers_eq_none_iff (ofMembers_applying read)

/-- The members of resources, with values for one bucket and anything for another one. -/
def bucketSections (other : Json) : List (String × Json) :=
  -- A list has the values of the bucket.
  [("bucket", .object [("aws:sourceip", .array [.string "10.0.0.2"])]), ("other", other)]

/-- A context file with these sections, which spells a name in another way for all resources. -/
def bucketTree (other : Json) : Json :=
  -- A single text stands for a list of one.
  .object [("global", .object [("AWS:SourceIp", .string "10.0.0.1")]),
    ("resources", .object (bucketSections other))]

/-- The file is one for its bucket. -/
theorem isContextFile_bucketTree (other : Json) :
    IsContextFile (some "bucket") (bucketTree other) where
  outline := ⟨_, rfl, by simp, fun _ there => ⟨_, (Option.some.inj there).symm⟩⟩
  shared := by
    rintro _ ⟨⟩
    exact ⟨_, rfl, List.forall_mem_singleton.mpr ⟨_, .single "10.0.0.1"⟩⟩
  own := by
    rintro _ ⟨⟩ _ ⟨⟩
    exact ⟨_, rfl, List.forall_mem_singleton.mpr ⟨_, .list ["10.0.0.2"]⟩⟩

/-- The file describes a context for its bucket, whatever it has for the other one. -/
theorem ofTree_gives_applying_bucket :
    (∃ context, ofTree (bucketTree (.int 7)) (some "bucket") = .ok context ∧
      (context.values? "aws:SourceIP").getD [] = ["10.0.0.1", "10.0.0.2"] ∧
      context.values? "team" = none) ∧
    (¬ ∃ context, ofTree (bucketTree (.int 7)) (some "other") = .ok context) ∧
    (ofTree (bucketTree (.int 7)) (some "bucket")).toOption =
      (ofTree (bucketTree .null) (some "bucket")).toOption := by
  obtain ⟨accepted, values, agrees, -⟩ :=
    ofTree_gives_applying (bucketTree (.int 7)) (some "bucket")
  have file := isContextFile_bucketTree (.int 7)
  obtain ⟨context, read⟩ := accepted.mpr file
  refine ⟨⟨context, read, ?_, ?_⟩, ?_, ?_⟩
  · rw [(values context read "aws:SourceIP").2]
    decide
  · rw [(values context read "team").1]
    decide
  · rw [(ofTree_gives_applying _ _).1]
    intro described
    obtain ⟨_, same, -⟩ := described.own "other" rfl (.int 7) rfl
    cases same
  · -- Both trees have the outline, and they agree in what counts for the bucket.
    refine agrees (bucketTree .null) (iff_of_true file.outline ?_) rfl ?_
    · exact (isContextFile_bucketTree .null).outline
    · rintro _ ⟨⟩
      rfl

end Context

end AccessPolicy
