/-! Lists with the same members, in whatever order and however often. -/

namespace AccessPolicy

variable {α : Type} {first second : List α}

/-- Two lists have the same members. -/
def SameMembers (first second : List α) : Prop :=
  -- Neither order nor repetition counts.
  ∀ item, item ∈ first ↔ item ∈ second

namespace SameMembers

/-- Two lists have the same members where each contains those of the other. -/
theorem iff_subset : SameMembers first second ↔ first ⊆ second ∧ second ⊆ first :=
  ⟨fun same => ⟨fun item => (same item).mp, fun item => (same item).mpr⟩,
    fun ⟨forth, back⟩ _ => ⟨fun inside => forth inside, fun inside => back inside⟩⟩

/-- Whether lists have the same members can be computed. -/
instance [DecidableEq α] (first second : List α) : Decidable (SameMembers first second) :=
  decidable_of_iff ((∀ item ∈ first, item ∈ second) ∧ ∀ item ∈ second, item ∈ first)
    iff_subset.symm

/-- A list has the members of itself. -/
theorem refl (items : List α) : SameMembers items items := fun _ => Iff.rfl

/-- Moving items changes no members. -/
theorem of_perm (moved : first.Perm second) : SameMembers first second := fun _ => moved.mem_iff

/-- An item that is there already is no new member. -/
theorem of_repeated {item : α} (there : item ∈ second) : SameMembers second (item :: second) := by
  intro other
  rw [List.mem_cons]
  constructor
  · exact Or.inr
  · rintro (rfl | inside)
    · exact there
    · exact inside

/-- Lists with the same members are empty together. -/
theorem isEmpty_eq (same : SameMembers first second) : first.isEmpty = second.isEmpty := by
  rw [Bool.eq_iff_iff, List.isEmpty_iff, List.isEmpty_iff, List.eq_nil_iff_forall_not_mem,
    List.eq_nil_iff_forall_not_mem]
  exact forall_congr' fun item => not_congr (same item)

/-- Whether some member passes a test depends on the members. -/
theorem any_eq (same : SameMembers first second) (test : α → Bool) :
    first.any test = second.any test := by
  rw [Bool.eq_iff_iff, List.any_eq_true, List.any_eq_true]
  exact exists_congr fun item => and_congr_left fun _ => same item

/-- Whether all members pass a test depends on the members. -/
theorem all_eq (same : SameMembers first second) (test : α → Bool) :
    first.all test = second.all test := by
  rw [Bool.eq_iff_iff, List.all_eq_true, List.all_eq_true]
  exact forall_congr' fun item => imp_congr_left (same item)

end SameMembers

end AccessPolicy
