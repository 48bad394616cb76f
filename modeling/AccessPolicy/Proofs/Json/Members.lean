import AccessPolicy.Json.Value
import AccessPolicy.Proofs.Paired

/-! Items of lists, and members of objects: giving one name an entry leaves the others alone. -/

namespace AccessPolicy.Json

/-- Items that are texts are these texts. -/
theorem mapM_string?_eq_some_iff {items : List Json} {texts : List String} :
    items.mapM string? = some texts ↔ items = texts.map .string := by
  have text (item : Json) (text : String) : item.string? = some text ↔ item = .string text := by
    cases item <;> simp [string?]
  simp only [mapM_eq_some_iff, text, forall₂_eq_map_iff]

/-- The first member has the entry of its own name. -/
@[simp] theorem find?_cons_self {α : Type} (name : String) (entry : α) (later : Members α) :
    find? name ((name, entry) :: later) = some entry := by
  simp [find?]

/-- The search for a name passes over members of other names. -/
theorem find?_cons_of_ne {α : Type} {name other : String} (different : other ≠ name) (old : α)
    (later : Members α) : find? name ((other, old) :: later) = find? name later := by
  have apart : (name == other) = false := beq_eq_false_iff_ne.mpr different.symm
  simp only [find?, List.lookup_cons, apart]

/-- A name that was given an entry has that entry. -/
@[simp] theorem find?_put {α : Type} (name : String) (entry : α) (members : Members α) :
    find? name (put name entry members) = some entry := by
  induction members with
  | nil => exact find?_cons_self name entry []
  | cons first later ih =>
    obtain ⟨other, old⟩ := first
    unfold put
    split
    · exact find?_cons_self name entry later
    · rename_i different
      -- Another name stands before the one asked for.
      rw [find?_cons_of_ne different, ih]

/-- Other names keep the entries that they had. -/
theorem find?_put_of_ne {α : Type} {name asked : String} (different : name ≠ asked) (entry : α)
    (members : Members α) : find? asked (put name entry members) = find? asked members := by
  induction members with
  | nil => exact find?_cons_of_ne different entry []
  | cons first later ih =>
    obtain ⟨other, old⟩ := first
    unfold put
    split
    · rename_i same
      subst same
      rw [find?_cons_of_ne different, find?_cons_of_ne different]
    · by_cases same : other = asked
      · subst same
        rw [find?_cons_self, find?_cons_self]
      · rw [find?_cons_of_ne same, find?_cons_of_ne same, ih]

/-- A new name is put behind all others. -/
theorem put_of_not_mem {α : Type} {name : String} {members : Members α}
    (fresh : name ∉ names members) (entry : α) :
    put name entry members = members ++ [(name, entry)] := by
  induction members with
  | nil => rfl
  | cons first later ih =>
    simp only [names, List.map_cons, List.mem_cons, not_or] at fresh
    rw [put, if_neg (Ne.symm fresh.1), ih fresh.2, List.cons_append]

/-- A name that has an entry keeps its place among the names. -/
theorem names_put {α : Type} {name : String} {members : Members α} {old : α}
    (found : find? name members = some old) (entry : α) :
    names (put name entry members) = names members := by
  induction members with
  | nil => cases found
  | cons first later ih =>
    obtain ⟨other, kept⟩ := first
    unfold put
    split
    · rename_i same
      simp [names, same]
    · rename_i different
      rw [find?_cons_of_ne different] at found
      simpa [names] using ih found

/-- The names do not depend on what a name is given. -/
theorem names_put_eq {α : Type} {name : String} {members : Members α} (entry other : α) :
    names (put name entry members) = names (put name other members) := by
  induction members with
  | nil => rfl
  | cons first later ih =>
    obtain ⟨earlier, old⟩ := first
    unfold put
    split
    · rfl
    · simpa [names] using ih

end AccessPolicy.Json
