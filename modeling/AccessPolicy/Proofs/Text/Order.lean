import AccessPolicy.Text.Order

/-! Sorted sets of texts: they keep the members of a list and depend on nothing else about it. -/

namespace AccessPolicy.Text

/-- Inserting adds one member and keeps all others. -/
@[simp] theorem mem_insertSorted {text inserted : String} {texts : List String} :
    text ∈ insertSorted inserted texts ↔ text = inserted ∨ text ∈ texts := by
  -- The three branches place the new text before, at, or behind the head.
  induction texts with
  | nil => simp [insertSorted]
  | cons other later ih =>
    unfold insertSorted
    split
    · rename_i same
      subst same
      simp
    · split
      · simp
      · simp only [List.mem_cons, ih]
        exact or_left_comm

/-- A sorted set has the members of the list that it was made from. -/
@[simp] theorem mem_sortedSet {text : String} {texts : List String} :
    text ∈ sortedSet texts ↔ text ∈ texts := by
  -- Every text of the list is inserted once, starting from no members.
  induction texts with
  | nil => simp [sortedSet]
  | cons first later ih => simpa [sortedSet] using or_congr_right ih

/-- Inserting into increasing texts leaves them increasing. -/
theorem insertSorted_increasing {inserted : String} {texts : List String}
    (increasing : texts.Pairwise (· < ·)) : (insertSorted inserted texts).Pairwise (· < ·) := by
  induction texts with
  | nil => simp [insertSorted]
  | cons other later ih =>
    obtain ⟨above, rest⟩ := List.pairwise_cons.mp increasing
    unfold insertSorted
    split
    · exact increasing
    · rename_i different
      split
      · -- The new head lies below the old one, and so below everything behind it.
        rename_i below
        refine List.pairwise_cons.mpr ⟨fun text member => ?_, increasing⟩
        rcases List.mem_cons.mp member with rfl | member
        · exact below
        · exact String.lt_trans below (above text member)
      · -- The old head stays, and the order is total, so it lies below the new text.
        rename_i notBelow
        refine List.pairwise_cons.mpr ⟨fun text member => ?_, ih rest⟩
        rcases mem_insertSorted.mp member with rfl | member
        · apply String.not_le.mp
          intro reversed
          exact different (String.le_antisymm reversed (String.not_lt.mp notBelow))
        · exact above text member

/-- A sorted set is increasing, so no member stands in it twice. -/
theorem sortedSet_increasing (texts : List String) : (sortedSet texts).Pairwise (· < ·) := by
  -- Each insertion keeps what the insertions before it established.
  induction texts with
  | nil => simp [sortedSet]
  | cons first later ih => exact insertSorted_increasing ih

/-- Increasing texts are settled by their members. -/
theorem eq_of_increasing {first second : List String} (left : first.Pairwise (· < ·))
    (right : second.Pairwise (· < ·)) (same : ∀ text, text ∈ first ↔ text ∈ second) :
    first = second := by
  -- Without repetitions, equal members make a permutation, and order leaves only one.
  have distinct {texts : List String} (increasing : texts.Pairwise (· < ·)) : texts.Nodup :=
    increasing.imp fun below => String.ne_of_lt below
  have permuted := (List.perm_ext_iff_of_nodup (distinct left) (distinct right)).mpr same
  exact permuted.eq_of_pairwise
    (fun _ _ _ _ below above => absurd above (String.lt_asymm below)) left right

/-- Increasing texts are a single one exactly where that is the only member. -/
theorem eq_singleton_iff_of_increasing {texts : List String} {text : String}
    (increasing : texts.Pairwise (· < ·)) :
    texts = [text] ↔ text ∈ texts ∧ ∀ other ∈ texts, other = text := by
  constructor
  · rintro rfl
    simp
  · rintro ⟨inside, only⟩
    refine eq_of_increasing increasing (List.pairwise_singleton _ _) fun other => ?_
    rw [List.mem_singleton]
    constructor
    · exact only other
    · rintro rfl
      exact inside

/-- Texts that are in order already are their own sorted set. -/
theorem sortedSet_of_increasing {texts : List String} (increasing : texts.Pairwise (· < ·)) :
    sortedSet texts = texts :=
  eq_of_increasing (sortedSet_increasing texts) increasing fun _ => mem_sortedSet

end AccessPolicy.Text
