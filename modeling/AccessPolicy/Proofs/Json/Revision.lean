import AccessPolicy.Proofs.Json.Distinct
import AccessPolicy.Proofs.Paired

/-! Values of which one object is put into another order, or one member is changed. -/

namespace AccessPolicy.Json

/-- One object within a value has its members in another order. -/
inductive Reordered : Json → Json → Prop where
  | here {members others : Members Json} (moved : members.Perm others) :
      Reordered (.object members) (.object others)
  | member {earlier later : Members Json} {name : String} {value other : Json}
      (within : Reordered value other) :
      Reordered (.object (earlier ++ (name, value) :: later))
        (.object (earlier ++ (name, other) :: later))
  | item {earlier later : List Json} {value other : Json} (within : Reordered value other) :
      Reordered (.array (earlier ++ value :: later)) (.array (earlier ++ other :: later))

/-- One member of an object is changed in a way that its name allows. -/
inductive MemberChanged (allowed : String → Json → Json → Prop) : Json → Json → Prop where
  | member {earlier later : Members Json} {name : String} {value other : Json}
      (changed : allowed name value other) :
      MemberChanged allowed (.object (earlier ++ (name, value) :: later))
        (.object (earlier ++ (name, other) :: later))

/-- A value is changed in one of the given ways, or one object within it is reordered. -/
def OrReordered (change : Json → Json → Prop) (value other : Json) : Prop :=
  -- Reordering is allowed everywhere.
  value.Reordered other ∨ change value other

/-- A member keeps its name, and its value is kept or changed as the name allows. -/
def KeptOr (allowed : String → Json → Json → Prop) (member other : String × Json) : Prop :=
  -- At most one member is changed at a time, but that does not matter here.
  member.1 = other.1 ∧ (member.2 = other.2 ∨ allowed member.1 member.2 other.2)

variable {allowed : String → Json → Json → Prop} {members others : Members Json}
  {value other : Json}

/-- Members of which one is changed are kept or changed. -/
theorem forall₂_keptOr {earlier later : Members Json} {name : String}
    (changed : allowed name value other) :
    List.Forall₂ (KeptOr allowed) (earlier ++ (name, value) :: later)
      (earlier ++ (name, other) :: later) := by
  have same (list : Members Json) : List.Forall₂ (KeptOr allowed) list list :=
    List.forall₂_same.mpr fun _ _ => ⟨rfl, Or.inl rfl⟩
  exact List.rel_append (same earlier) (.cons ⟨rfl, Or.inr changed⟩ (same later))

/-- An object that is changed or reordered is an object with its members rearranged. -/
theorem exists_rearranged (changed : OrReordered (MemberChanged allowed) (.object members) value) :
    ∃ others, value = .object others ∧
      Rearranged (KeptOr fun name => OrReordered (allowed name)) members others := by
  rcases changed with reordered | changed
  · cases reordered with
    | here moved => exact ⟨_, rfl, .of_perm (fun _ => ⟨rfl, Or.inl rfl⟩) moved⟩
    | member within => exact ⟨_, rfl, .of_forall₂ (forall₂_keptOr (Or.inl within))⟩
  · cases changed with
    | member changed => exact ⟨_, rfl, .of_forall₂ (forall₂_keptOr (Or.inr changed))⟩

/-- No object is within a text. -/
theorem not_reordered_string {text : String} : ¬ (Json.string text).Reordered other := nofun

/-- An array within which an object is reordered has an item within which it is. -/
theorem exists_of_reordered_array {items : List Json}
    (changed : (Json.array items).Reordered value) :
    ∃ item ∈ items, ∃ other, item.Reordered other := by
  cases changed with
  | item within => exact ⟨_, by simp, _, within⟩

/-- An array within which an object is reordered is an array of kept or reordered items. -/
theorem exists_items_of_reordered {items : List Json}
    (changed : (Json.array items).Reordered value) :
    ∃ others, value = .array others ∧
      List.Forall₂ (fun item other => item = other ∨ item.Reordered other) items others := by
  cases changed with
  | item within => exact ⟨_, rfl, forall₂_of_changed within⟩

section Rearranged

/-- Members of which each keeps its name have the same names. -/
theorem names_eq_of_forall₂ (all : List.Forall₂ (KeptOr allowed) members others) :
    names members = names others := by
  induction all with
  | nil => rfl
  | cons here _ ih => exact congrArg₂ List.cons here.1 ih

/-- What is found among members that are kept or changed is kept or changed itself. -/
theorem find?_of_forall₂ (all : List.Forall₂ (KeptOr allowed) members others) (name : String) :
    Option.Rel (fun value other => value = other ∨ allowed name value other) (find? name members)
      (find? name others) := by
  induction all with
  | nil => exact .none
  | @cons first second _ _ here _ ih =>
    obtain ⟨named, value⟩ := first
    obtain ⟨namedToo, other⟩ := second
    obtain ⟨same, changed⟩ := here
    simp only at same changed
    subst same
    by_cases asked : named = name
    · subst asked
      rw [find?_cons_self, find?_cons_self]
      exact .some changed
    · rwa [find?_cons_of_ne asked, find?_cons_of_ne asked]

variable (moved : Rearranged (KeptOr allowed) members others)
include moved

/-- Rearranging members moves their names. -/
theorem names_perm_of_rearranged : (names members).Perm (names others) := by
  obtain ⟨middle, perm, all⟩ := moved
  rw [← names_eq_of_forall₂ all]
  exact perm.map Prod.fst

/-- What is found among rearranged members is kept or changed, where no name occurs twice. -/
theorem find?_of_rearranged (once : (names members).Nodup) (name : String) :
    Option.Rel (fun value other => value = other ∨ allowed name value other) (find? name members)
      (find? name others) := by
  obtain ⟨middle, perm, all⟩ := moved
  rw [find?_perm once perm]
  exact find?_of_forall₂ all name

/-- A member whose value cannot be changed is found as it was. -/
theorem find?_eq_of_rearranged (once : (names members).Nodup) {name : String}
    (fixed : ∀ value other, find? name members = some value → ¬ allowed name value other) :
    find? name others = find? name members := by
  have related := find?_of_rearranged moved once name
  cases there : find? name members with
  | none => exact rel_none_left_iff.mp (there ▸ related)
  | some value =>
    obtain ⟨other, found, same⟩ := rel_some_left_iff.mp (there ▸ related)
    rw [found, same.resolve_right (fixed value other there)]

end Rearranged

/-- A member within which there is no object, and that is not changed otherwise, stays as it was. -/
theorem find?_eq_of_plain {change : String → Json → Json → Prop}
    (moved : Rearranged (KeptOr fun name => OrReordered (change name)) members others)
    (once : (names members).Nodup) {name : String}
    (plain : ∀ value other, find? name members = some value → ¬ value.Reordered other)
    (fixed : ∀ value other, ¬ change name value other) : find? name others = find? name members :=
  find?_eq_of_rearranged moved once fun value other there changed =>
    changed.elim (plain value other there) (fixed value other)

/-- An object stays without repeated names where its members are kept, or changed to such values. -/
theorem distinct_of_forall₂ (all : List.Forall₂ (KeptOr allowed) members others)
    (keeps : ∀ name value other, allowed name value other → value.Distinct → other.Distinct)
    (distinct : (Json.object members).Distinct) : (Json.object others).Distinct := by
  obtain ⟨once, each⟩ := distinct_object_iff.mp distinct
  refine .object (names_eq_of_forall₂ all ▸ once) fun member inside => ?_
  obtain ⟨old, there, -, changed⟩ := exists_of_mem_left all.flip inside
  rcases changed with same | changed
  · exact same ▸ each old there
  · exact keeps _ _ _ changed (each old there)

/-- Reordering an object within a value repeats no name. -/
theorem Reordered.distinct (changed : value.Reordered other) (distinct : value.Distinct) :
    other.Distinct := by
  induction changed with
  | here moved =>
    obtain ⟨once, each⟩ := distinct_object_iff.mp distinct
    exact .object ((moved.map Prod.fst).nodup_iff.mp once) fun member inside =>
      each member (moved.mem_iff.mpr inside)
  | member within ih =>
    have all := @forall₂_keptOr (fun _ value other => value.Distinct → other.Distinct)
    exact distinct_of_forall₂ (all ih) (fun _ _ _ keeps => keeps) distinct
  | item within ih =>
    simp only [distinct_array_iff, List.forall_mem_append, List.forall_mem_cons] at distinct ⊢
    exact ⟨distinct.1, ih distinct.2.1, distinct.2.2⟩

/-- Changing a member repeats no name where the new values do not. -/
theorem MemberChanged.distinct (changed : MemberChanged allowed value other)
    (keeps : ∀ name value other, allowed name value other → value.Distinct → other.Distinct)
    (distinct : value.Distinct) : other.Distinct := by
  cases changed with
  | member changed => exact distinct_of_forall₂ (forall₂_keptOr changed) keeps distinct

end AccessPolicy.Json
