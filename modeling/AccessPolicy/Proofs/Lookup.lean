import Mathlib.Data.List.Basic

/-! Lists of keys with values: what a key leads to once further values are put behind its own. -/

namespace AccessPolicy

variable {κ α : Type} {key asked other : κ} {values : List α}

/-- A key other than the first one is looked for among the later ones. -/
theorem lookup_cons_of_ne [BEq κ] [LawfulBEq κ] {value : α} {later : List (κ × α)} (different : asked ≠ other) :
    ((other, value) :: later).lookup asked = later.lookup asked := by
  rw [List.lookup_cons, beq_eq_false_iff_ne.mpr different]

/-- A key leads to nothing exactly where it is not in the list. -/
theorem lookup_eq_none_iff_not_mem [BEq κ] [LawfulBEq κ] {entries : List (κ × α)} :
    entries.lookup key = none ↔ key ∉ entries.map Prod.fst := by
  simp only [List.lookup_eq_none_iff, bne_iff_ne, List.mem_map, not_exists, not_and]
  exact ⟨fun apart entry inside same => apart entry inside same.symm,
    fun absent entry inside same => absent entry inside same.symm⟩

/-- An update puts values behind those of a key, which is added at the end where it is missing. -/
structure Appends [DecidableEq κ] (key : κ) (values : List α)
    (update : List (κ × List α) → List (κ × List α)) : Prop where
  nil : update [] = [(key, values)]
  cons : ∀ other old later, update ((other, old) :: later) =
    if other = key then (other, old ++ values) :: later else (other, old) :: update later

namespace Appends

variable [DecidableEq κ] {update : List (κ × List α) → List (κ × List α)}

/-- Further values stand behind the old ones of their key, and other keys keep theirs. -/
theorem lookup [BEq κ] [LawfulBEq κ] (appends : Appends key values update) (asked : κ)
    (entries : List (κ × List α)) :
    (update entries).lookup asked =
      if asked = key then some ((entries.lookup key).getD [] ++ values)
      else entries.lookup asked := by
  induction entries with
  | nil =>
    rw [appends.nil]
    by_cases same : asked = key
    · simp [same]
    · rw [lookup_cons_of_ne same, if_neg same]
  | cons first later ih =>
    obtain ⟨other, old⟩ := first
    rw [appends.cons]
    by_cases found : other = key
    · -- The key is there already, so its values are joined in place.
      subst found
      rw [if_pos rfl]
      by_cases same : asked = other
      · simp [same]
      · rw [lookup_cons_of_ne same, lookup_cons_of_ne same, if_neg same]
    · rw [if_neg found, lookup_cons_of_ne (Ne.symm found)]
      by_cases same : asked = other
      · subst same
        rw [if_neg found]
        simp
      · rw [lookup_cons_of_ne same, lookup_cons_of_ne same, ih]

/-- Putting values behind those of a key leads to that key and to those that were there. -/
theorem mem_keys (appends : Appends key values update) {entries : List (κ × List α)} :
    asked ∈ (update entries).map Prod.fst ↔ asked = key ∨ asked ∈ entries.map Prod.fst := by
  induction entries with
  | nil => simp [appends.nil]
  | cons first later ih =>
    obtain ⟨other, old⟩ := first
    rw [appends.cons]
    by_cases found : other = key
    · simp [found]
    · rw [if_neg found, List.map_cons, List.map_cons, List.mem_cons, List.mem_cons, ih]
      exact or_left_comm

/-- Putting values behind those of a key keeps keys apart. -/
theorem nodup_keys (appends : Appends key values update) {entries : List (κ × List α)}
    (distinct : (entries.map Prod.fst).Nodup) : ((update entries).map Prod.fst).Nodup := by
  induction entries with
  | nil => simp [appends.nil]
  | cons first later ih =>
    obtain ⟨other, old⟩ := first
    rw [List.map_cons, List.nodup_cons] at distinct
    rw [appends.cons]
    by_cases found : other = key
    · subst found
      rwa [if_pos rfl, List.map_cons, List.nodup_cons]
    · rw [if_neg found, List.map_cons, List.nodup_cons, appends.mem_keys, not_or]
      exact ⟨⟨found, distinct.1⟩, ih distinct.2⟩

end Appends

end AccessPolicy
