import AccessPolicy.Context
import AccessPolicy.Proofs.Lookup

/-! Contexts that are built of entries: the values under a name are those of all its spellings. -/

namespace AccessPolicy.Context

/-- The values of all entries whose names differ from a name in letter case at most. -/
def collected (entries : List (String × List String)) (name : String) : List String :=
  -- They stand in the order of the entries.
  (entries.filter fun entry => Text.lower entry.1 = Text.lower name).flatMap Prod.snd

/-- The values of an entry come first where its name is the one asked for. -/
theorem collected_cons (entry : String × List String) (later : List (String × List String))
    (name : String) :
    collected (entry :: later) name =
      (if Text.lower entry.1 = Text.lower name then entry.2 else []) ++ collected later name := by
  unfold collected
  split <;> simp [*]

/-- Putting values under a name is such an update of the entries. -/
theorem appends_append (name : String) (values : List String) :
    Appends name values (append name values) where
  nil := rfl
  cons other old later := by
    rw [append]
    split
    · rename_i same
      rw [same]
    · rfl

/-- Adding values under a name puts them behind the old ones, whatever spelling asks for them. -/
theorem values?_add (context : Context) (name asked : String) (values : List String) :
    ((context.add name values).values? asked).getD [] =
      (context.values? asked).getD [] ++
        if Text.lower name = Text.lower asked then values else [] := by
  rw [add, values?, (appends_append (Text.lower name) values).lookup]
  by_cases same : Text.lower asked = Text.lower name
  · simp [same, values?]
  · simp [same, Ne.symm same, values?]

/-- A name has no values once some were added exactly where it is another one and had none before. -/
theorem values?_add_eq_none_iff {context : Context} {name asked : String} {values : List String} :
    (context.add name values).values? asked = none ↔
      context.values? asked = none ∧ Text.lower name ≠ Text.lower asked := by
  rw [add, values?, (appends_append (Text.lower name) values).lookup]
  by_cases same : Text.lower asked = Text.lower name
  · simp [same]
  · simp [same, Ne.symm same, values?]

/-- The context with the values of further entries. -/
def addAll (context : Context) (entries : List (String × List String)) : Context :=
  -- They are added one after the other.
  entries.foldl (fun context entry => context.add entry.1 entry.2) context

/-- The first of several entries is added before all others. -/
theorem addAll_cons (context : Context) (entry : String × List String)
    (later : List (String × List String)) :
    context.addAll (entry :: later) = (context.add entry.1 entry.2).addAll later := rfl

/-- Two lists of entries are added one after the other. -/
theorem addAll_append (context : Context) (first second : List (String × List String)) :
    context.addAll (first ++ second) = (context.addAll first).addAll second :=
  List.foldl_append

/-- The values of further entries stand behind those that were there. -/
theorem values?_addAll (context : Context) (entries : List (String × List String))
    (name : String) :
    ((context.addAll entries).values? name).getD [] =
      (context.values? name).getD [] ++ collected entries name := by
  induction entries generalizing context with
  | nil => simp [addAll, collected]
  | cons entry later ih =>
    rw [addAll_cons, ih, values?_add, collected_cons, List.append_assoc]

/-- A name has no values where no entry has the name, and it had none before. -/
theorem values?_addAll_eq_none_iff {context : Context} {entries : List (String × List String)}
    {name : String} :
    (context.addAll entries).values? name = none ↔
      context.values? name = none ∧ ∀ entry ∈ entries, Text.lower entry.1 ≠ Text.lower name := by
  induction entries generalizing context with
  | nil => simp [addAll]
  | cons entry later ih =>
    rw [addAll_cons, ih, values?_add_eq_none_iff, List.forall_mem_cons, and_assoc]

/-- The values under a name in a context are those collected from its entries. -/
theorem values?_ofEntries (entries : List (String × List String)) (name : String) :
    ((ofEntries entries).values? name).getD [] = collected entries name :=
  -- Nothing stands in front of them.
  values?_addAll empty entries name

/-- A context has no values under a name exactly where none of its entries has that name. -/
theorem values?_ofEntries_eq_none_iff {entries : List (String × List String)} {name : String} :
    (ofEntries entries).values? name = none ↔
      ∀ entry ∈ entries, Text.lower entry.1 ≠ Text.lower name :=
  values?_addAll_eq_none_iff.trans (and_iff_right rfl)

end AccessPolicy.Context
