import AccessPolicy.Json.Reader
import AccessPolicy.Proofs.Json.Members

/-! Values whose objects name every member once: those that are read from texts. -/

namespace AccessPolicy.Json

/-- Every object within a value has at most one member of each name. -/
inductive Distinct : Json → Prop where
  | null : Distinct .null
  | bool (truth : Bool) : Distinct (.bool truth)
  | int (number : Int) : Distinct (.int number)
  | float (number : Number.Binary64) : Distinct (.float number)
  | string (text : String) : Distinct (.string text)
  | array {items : List Json} (each : ∀ item ∈ items, Distinct item) : Distinct (.array items)
  | object {members : Members Json} (once : (names members).Nodup)
      (each : ∀ member ∈ members, Distinct member.2) : Distinct (.object members)

/-- The items of an array of this kind are of this kind. -/
theorem distinct_array_iff {items : List Json} :
    (Json.array items).Distinct ↔ ∀ item ∈ items, item.Distinct := by
  constructor
  · rintro ⟨⟩
    assumption
  · exact .array

/-- An object of this kind names members once, and its members are of this kind. -/
theorem distinct_object_iff {members : Members Json} :
    (Json.object members).Distinct ↔
      (names members).Nodup ∧ ∀ member ∈ members, member.2.Distinct := by
  constructor
  · rintro ⟨⟩
    exact ⟨‹_›, ‹_›⟩
  · rintro ⟨once, each⟩
    exact .object once each

/-- An object without members repeats no name. -/
theorem distinct_empty : (Json.object []).Distinct :=
  .object (by simp [names]) (by simp)

section Lookup

variable {α : Type} {name : String} {entry : α} {members others : Members α}

/-- An entry that is found belongs to a member. -/
theorem mem_of_find? (found : find? name members = some entry) : (name, entry) ∈ members := by
  obtain ⟨earlier, later, rfl, -⟩ := List.lookup_eq_some_iff.mp found
  simp

/-- Where no name occurs twice, every member is found under its name. -/
theorem find?_eq_some_iff (once : (names members).Nodup) :
    find? name members = some entry ↔ (name, entry) ∈ members := by
  refine ⟨mem_of_find?, fun member => ?_⟩
  obtain ⟨earlier, later, rfl⟩ := List.append_of_mem member
  refine List.lookup_eq_some_iff.mpr ⟨earlier, later, rfl, fun other before => ?_⟩
  -- A member of the same name before this one would repeat the name.
  have apart : name ∉ names earlier := by
    intro again
    simp only [names, List.map_append, List.map_cons] at once again
    exact (List.nodup_append.mp once).2.2 name again name List.mem_cons_self rfl
  have different : other.1 ≠ name := by
    rintro rfl
    exact apart (List.mem_map_of_mem before)
  simpa using different.symm

/-- A name without an entry is the name of no member. -/
theorem find?_eq_none_iff : find? name members = none ↔ name ∉ names members := by
  simp only [find?, List.lookup_eq_none_iff, bne_iff_ne, names, List.mem_map, not_exists, not_and]
  exact forall₂_congr fun _ _ => ne_comm

/-- The order of members does not matter for finding one, where no name occurs twice. -/
theorem find?_perm (once : (names members).Nodup) (moved : members.Perm others) :
    find? name members = find? name others := by
  have onceToo : (names others).Nodup := (moved.map Prod.fst).nodup_iff.mp once
  apply Option.ext
  intro entry
  rw [find?_eq_some_iff once, find?_eq_some_iff onceToo]
  exact moved.mem_iff

/-- Giving a name another entry names no member twice. -/
theorem nodup_names_put (once : (names members).Nodup) (name : String) (entry : α) :
    (names (put name entry members)).Nodup := by
  cases found : find? name members with
  | some old => rwa [names_put found]
  | none =>
    have fresh : name ∉ names members := find?_eq_none_iff.mp found
    rw [put_of_not_mem fresh, names, List.map_append]
    refine List.nodup_append.mpr ⟨once, by simp, fun other before added new same => ?_⟩
    obtain rfl : added = name := List.mem_singleton.mp new
    exact fresh (same ▸ before)

/-- The members of an object after a name was given an entry are the old ones and that one. -/
theorem mem_put {member : String × α} (inside : member ∈ put name entry members) :
    member = (name, entry) ∨ member ∈ members := by
  induction members with
  | nil => exact Or.inl (List.mem_singleton.mp inside)
  | cons first later ih =>
    rw [put] at inside
    split at inside
    · exact (List.mem_cons.mp inside).imp_right (List.mem_cons_of_mem _)
    · rcases List.mem_cons.mp inside with rfl | behind
      · exact Or.inr List.mem_cons_self
      · exact (ih behind).imp_right (List.mem_cons_of_mem _)

end Lookup

/-- Members stay of this kind when a name is given an entry of this kind. -/
theorem distinct_put {name : String} {value : Json} {members : Members Json}
    (distinct : (Json.object members).Distinct) (distinctToo : value.Distinct) :
    (Json.object (put name value members)).Distinct := by
  obtain ⟨once, each⟩ := distinct_object_iff.mp distinct
  refine .object (nodup_names_put once name value) fun member inside => ?_
  rcases mem_put inside with rfl | old
  · exact distinctToo
  · exact each member old

/-- Whatever reading succeeds with has a property. -/
def Step.Yields {α : Type} (step : Step α) (fits : α → Prop) : Prop :=
  -- A text that cannot be read promises nothing.
  ∀ found rest, step = .ok (found, rest) → fits found

/-- Words and numbers have no objects in them. -/
theorem readAtom_yields (chars : List Char) : (readAtom chars).Yields Distinct := by
  intro value rest read
  unfold readAtom at read
  split at read
  · rename_i word found named
    cases read
    -- Each of the six words stands for a value without members.
    have listed := List.mem_of_find?_eq_some named
    simp only [words, List.mem_cons, List.not_mem_nil, or_false, Prod.mk.injEq] at listed
    rcases listed with ⟨-, rfl⟩ | ⟨-, rfl⟩ | ⟨-, rfl⟩ | ⟨-, rfl⟩ | ⟨-, rfl⟩ | ⟨-, rfl⟩ <;>
      constructor
  · unfold readNumber at read
    grind [Distinct]

/-- With some fuel, values, items and members are read without repeated names. -/
structure DistinctAt (reserve : Text.Reserve) (fuel : Nat) : Prop where
  value : ∀ chars, (readValue reserve fuel chars).Yields Distinct
  items : ∀ chars, (readItems reserve fuel chars).Yields fun items => ∀ item ∈ items, item.Distinct
  members : ∀ members chars, (Json.object members).Distinct →
    (readMembers reserve fuel members chars).Yields fun found => (Json.object found).Distinct

namespace DistinctAt

variable {reserve : Text.Reserve} {fuel : Nat}

/-- One more piece of fuel is enough for the value around items or members. -/
theorem value_succ (less : DistinctAt reserve fuel) (chars : List Char) :
    (readValue reserve (fuel + 1) chars).Yields Distinct := by
  intro value rest read
  cases chars with
  | nil => simp [readValue] at read
  | cons c chars =>
    -- The first character tells a text, an array, an object and an atom apart.
    rw [readValue] at read
    split at read
    · split at read
      · cases read
        exact .string _
      · cases read
    · split at read
      · simp only at read
        split at read
        · cases read
          exact .array (by simp)
        · split at read
          · rename_i listed
            cases read
            exact .array (less.items _ _ _ listed)
          · cases read
      · split at read
        · simp only at read
          split at read
          · cases read
            exact distinct_empty
          · split at read
            · rename_i named
              cases read
              exact less.members _ _ distinct_empty _ _ named
            · cases read
        · exact readAtom_yields _ _ _ read

/-- One more piece of fuel is enough for an item before others. -/
theorem items_succ (less : DistinctAt reserve fuel) (chars : List Char) :
    (readItems reserve (fuel + 1) chars).Yields fun items => ∀ item ∈ items, item.Distinct := by
  intro found rest read
  rw [readItems] at read
  split at read
  · cases read
  · rename_i item later first
    have distinct := less.value _ _ _ first
    split at read
    · cases read
      simpa using distinct
    · split at read
      · rename_i others _ behind
        cases read
        exact List.forall_mem_cons.mpr ⟨distinct, less.items _ _ _ behind⟩
      · cases read
    · cases read

/-- One more piece of fuel is enough for a member between others. -/
theorem members_succ (less : DistinctAt reserve fuel) (members : Members Json) (chars : List Char)
    (distinct : (Json.object members).Distinct) :
    (readMembers reserve (fuel + 1) members chars).Yields fun found => (Json.object found).Distinct := by
  intro found rest read
  rw [readMembers] at read
  split at read
  · cases read
  · split at read
    · cases read
    · rename_i name _ _
      split at read
      · split at read
        · cases read
        · rename_i value _ valued
          -- The name takes the new value, whether it was there before or not.
          have added : (Json.object (put name value members)).Distinct :=
            distinct_put distinct (less.value _ _ _ valued)
          simp only at read
          split at read
          · cases read
            exact added
          · exact less.members _ _ added _ _ read
          · cases read
      · cases read

end DistinctAt

/-- With any fuel, values, items and members are read without repeated names. -/
theorem distinctAt (reserve : Text.Reserve) (fuel : Nat) : DistinctAt reserve fuel := by
  -- Every call of one reader by another takes one piece of fuel.
  induction fuel with
  | zero =>
    constructor
    · intro chars value rest read
      cases chars <;> simp [readValue] at read
    · intro chars items rest read
      simp [readItems] at read
    · intro members chars _ found rest read
      simp [readMembers] at read
  | succ fuel ih => exact ⟨ih.value_succ, ih.items_succ, ih.members_succ⟩

/-- What is read from a text names no member of an object twice. -/
theorem distinct_of_read {reserve : Text.Reserve} {chars : List Char} {value : Json}
    (accepted : read reserve chars = .ok value) : value.Distinct := by
  unfold read at accepted
  split at accepted
  · cases accepted
  · split at accepted
    · cases accepted
    · rename_i found rest valued
      split at accepted
      · cases accepted
        exact (distinctAt _ _).value _ _ _ valued
      · cases accepted

end AccessPolicy.Json
