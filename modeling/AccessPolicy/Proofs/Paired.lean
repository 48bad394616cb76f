import Mathlib.Data.List.Perm.Basic

/-! Values that may be missing, and items of lists, related one by one. -/

namespace AccessPolicy

variable {α β : Type} {holds : α → β → Prop}

/-- Where something is related to a value, there is something that is. -/
theorem rel_some_right_iff {left : Option α} {right : β} :
    Option.Rel holds left (some right) ↔ ∃ value, left = some value ∧ holds value right := by
  cases left <;> simp

/-- Where something is related to no value, there is nothing. -/
theorem rel_none_right_iff {left : Option α} :
    Option.Rel holds left none ↔ left = none := by
  cases left <;> simp

/-- A value is related to what may be missing where that is there. -/
theorem rel_some_left_iff {left : α} {right : Option β} :
    Option.Rel holds (some left) right ↔ ∃ value, right = some value ∧ holds left value := by
  cases right <;> simp

/-- Nothing is related to what may be missing where that is missing. -/
theorem rel_none_left_iff {right : Option β} : Option.Rel holds none right ↔ right = none := by
  cases right <;> simp

/-- Every item is related to something exactly where the items are related to some list. -/
theorem exists_forall₂_iff {items : List α} :
    (∃ results, List.Forall₂ holds items results) ↔
      ∀ item ∈ items, ∃ result, holds item result := by
  induction items with
  | nil => simp
  | cons item later ih =>
    rw [List.forall_mem_cons, ← ih]
    constructor
    · rintro ⟨_, _ | ⟨here, behind⟩⟩
      exact ⟨⟨_, here⟩, _, behind⟩
    · rintro ⟨⟨result, here⟩, results, behind⟩
      exact ⟨result :: results, .cons here behind⟩

/-- A step is made for a whole list where it is made for each item, in their order. -/
theorem mapM_eq_some_iff {step : α → Option β} {items : List α} {results : List β} :
    items.mapM step = some results ↔
      List.Forall₂ (fun item result => step item = some result) items results := by
  induction items generalizing results with
  | nil => simp [eq_comm]
  | cons item later ih =>
    rw [List.mapM_cons, List.forall₂_cons_left_iff]
    simp only [Option.bind_eq_bind, Option.bind_eq_some_iff, Option.pure_def, Option.some.injEq]
    constructor
    · rintro ⟨first, here, others, behind, rfl⟩
      exact ⟨first, others, here, ih.mp behind, rfl⟩
    · rintro ⟨first, others, here, behind, rfl⟩
      exact ⟨first, here, others, ih.mpr behind, rfl⟩

/-- What is true of every result can be told apart from how the items are related to them. -/
theorem forall₂_and_right_iff {fits : β → Prop} {items : List α} {results : List β} :
    List.Forall₂ (fun item result => holds item result ∧ fits result) items results ↔
      List.Forall₂ holds items results ∧ ∀ result ∈ results, fits result := by
  induction items generalizing results with
  | nil => cases results <;> simp
  | cons item later ih => cases results <;> simp [ih, and_assoc, and_left_comm]

/-- What two lists in a row are related to, the lists are related to one after the other. -/
theorem forall₂_append_left_iff {first second : List α} {results : List β} :
    List.Forall₂ holds (first ++ second) results ↔
      ∃ earlier later, results = earlier ++ later ∧ List.Forall₂ holds first earlier ∧
        List.Forall₂ holds second later := by
  constructor
  · intro all
    induction first generalizing results with
    | nil => exact ⟨[], results, rfl, .nil, all⟩
    | cons item others ih =>
      obtain ⟨result, rest, here, behind, rfl⟩ := List.forall₂_cons_left_iff.mp all
      obtain ⟨earlier, later, rfl, left, right⟩ := ih behind
      exact ⟨result :: earlier, later, rfl, .cons here left, right⟩
  · intro ⟨earlier, later, split, left, right⟩
    rw [split]
    exact List.rel_append left right

/-- Items that are made from the results by a function are a list made from theirs. -/
theorem forall₂_eq_map_iff {make : β → α} {items : List α} {results : List β} :
    List.Forall₂ (fun item result => item = make result) items results ↔
      items = results.map make := by
  rw [← List.forall₂_eq_eq_eq, List.forall₂_map_right_iff]

/-- Two lists are made into one and the same list where their items are, one by one. -/
theorem forall₂_map_eq_iff {γ : Type} {make : α → γ} {items others : List α} :
    List.Forall₂ (fun item other => make item = make other) items others ↔
      items.map make = others.map make := by
  rw [← List.forall₂_eq_eq_eq, List.forall₂_map_left_iff, List.forall₂_map_right_iff]

/-- A test passed by some item is passed by some result if related things are tested alike. -/
theorem any_eq_of_forall₂ {test : α → Bool} {other : β → Bool}
    (same : ∀ item result, holds item result → test item = other result) {items : List α}
    {results : List β} (all : List.Forall₂ holds items results) :
    items.any test = results.any other := by
  induction all with
  | nil => rfl
  | cons here _ ih => rw [List.any_cons, List.any_cons, same _ _ here, ih]

/-- Results that are made from other things by a function are a list made from these. -/
theorem exists_map_of_forall₂ {γ : Type} {make : γ → β} {related : α → γ → Prop} {items : List α}
    {results : List β}
    (all : List.Forall₂ (fun item result => ∃ origin, result = make origin ∧ related item origin)
      items results) :
    ∃ origins, results = origins.map make ∧ List.Forall₂ related items origins := by
  induction all with
  | nil => exact ⟨[], rfl, .nil⟩
  | cons here _ ih =>
    obtain ⟨origin, rfl, first⟩ := here
    obtain ⟨origins, rfl, behind⟩ := ih
    exact ⟨origin :: origins, rfl, .cons first behind⟩

/-- Every item on the left is related to one on the right. -/
theorem exists_of_mem_left {items : List α} {results : List β}
    (all : List.Forall₂ holds items results) {item : α} (inside : item ∈ items) :
    ∃ result ∈ results, holds item result := by
  induction all with
  | nil => cases inside
  | cons here _ ih =>
    rcases List.mem_cons.mp inside with rfl | behind
    · exact ⟨_, List.mem_cons_self, here⟩
    · obtain ⟨result, there, related⟩ := ih behind
      exact ⟨result, List.mem_cons_of_mem _ there, related⟩

/-- A list of which one item is changed has its items kept or changed one by one. -/
theorem forall₂_of_changed {change : α → α → Prop} {earlier later : List α} {item other : α}
    (changed : change item other) :
    List.Forall₂ (fun item other => item = other ∨ change item other) (earlier ++ item :: later)
      (earlier ++ other :: later) := by
  have kept (items : List α) :
      List.Forall₂ (fun item other => item = other ∨ change item other) items items :=
    List.forall₂_same.mpr fun _ _ => Or.inl rfl
  exact List.rel_append (kept earlier) (.cons (Or.inr changed) (kept later))

/-- Whatever items lead to, related items lead to in a related way. -/
theorem forall₂_transport {γ : Type} {change : α → α → Prop} {makes : α → γ → Prop}
    {same : γ → γ → Prop} {items others : List α} {results : List γ}
    (changed : List.Forall₂ change items others) (made : List.Forall₂ makes items results)
    (step : ∀ item other result, change item other → makes item result →
      ∃ next, makes other next ∧ same result next) :
    ∃ nexts, List.Forall₂ makes others nexts ∧ List.Forall₂ same results nexts := by
  induction changed generalizing results with
  | nil =>
    cases made
    exact ⟨[], .nil, .nil⟩
  | cons here _ ih =>
    cases made with
    | cons first behind =>
      obtain ⟨next, makesNext, sameNext⟩ := step _ _ _ here first
      obtain ⟨nexts, makesNexts, sameNexts⟩ := ih behind
      exact ⟨next :: nexts, .cons makesNext makesNexts, .cons sameNext sameNexts⟩

/-- The items of a list, in some order, are related one by one to those of another. -/
def Rearranged (holds : α → β → Prop) (first : List α) (second : List β) : Prop :=
  -- The order on the right is the one that counts.
  ∃ middle, first.Perm middle ∧ List.Forall₂ holds middle second

namespace Rearranged

/-- Lists related one by one need no other order. -/
theorem of_forall₂ {items : List α} {results : List β} (all : List.Forall₂ holds items results) :
    Rearranged holds items results :=
  ⟨items, .refl _, all⟩

/-- Another order is a rearrangement, where items are related to themselves. -/
theorem of_perm {same : α → α → Prop} (refl : ∀ item, same item item) {first second : List α}
    (moved : first.Perm second) : Rearranged same first second :=
  ⟨second, moved, List.forall₂_same.mpr fun item _ => refl item⟩

/-- Every item on the left is related to one on the right. -/
theorem exists_of_mem {first : List α} {second : List β} (moved : Rearranged holds first second)
    {item : α} (inside : item ∈ first) : ∃ result ∈ second, holds item result := by
  obtain ⟨middle, perm, all⟩ := moved
  exact exists_of_mem_left all (perm.mem_iff.mp inside)

/-- Every item on the right is related to one on the left. -/
theorem exists_of_mem_back {first : List α} {second : List β}
    (moved : Rearranged holds first second) {result : β} (inside : result ∈ second) :
    ∃ item ∈ first, holds item result := by
  obtain ⟨middle, perm, all⟩ := moved
  obtain ⟨item, there, related⟩ := exists_of_mem_left all.flip inside
  exact ⟨item, perm.mem_iff.mpr there, related⟩

/-- Rearranged lists stay so behind others that are. -/
theorem append {first others : List α} {second results : List β}
    (left : Rearranged holds first second) (right : Rearranged holds others results) :
    Rearranged holds (first ++ others) (second ++ results) := by
  obtain ⟨middle, perm, all⟩ := left
  obtain ⟨middle', perm', all'⟩ := right
  exact ⟨middle ++ middle', perm.append perm', List.rel_append all all'⟩

/-- Where items are rearranged, so are lists that each of them stands for. -/
theorem flatMap {γ δ : Type} {related : γ → δ → Prop} {left : α → List γ} {right : β → List δ}
    {first : List α} {second : List β} (moved : Rearranged holds first second)
    (each : ∀ item ∈ first, ∀ result, holds item result →
      Rearranged related (left item) (right result)) :
    Rearranged related (first.flatMap left) (second.flatMap right) := by
  obtain ⟨middle, perm, all⟩ := moved
  have onMiddle : ∀ item ∈ middle, ∀ result, holds item result →
      Rearranged related (left item) (right result) :=
    fun item inside => each item (perm.mem_iff.mpr inside)
  obtain ⟨last, moved, related⟩ : Rearranged related (middle.flatMap left)
      (second.flatMap right) := by
    clear perm
    induction all with
    | nil => exact .of_forall₂ .nil
    | cons here _ ih =>
      obtain ⟨this, others⟩ := List.forall_mem_cons.mp onMiddle
      exact append (this _ here) (ih others)
  exact ⟨last, (perm.flatMap_right left).trans moved, related⟩

/-- Only a list without items can be rearranged into one without results. -/
theorem eq_nil {first : List α} {second : List β} (moved : Rearranged holds first second)
    (none : second = []) : first = [] := by
  obtain ⟨middle, perm, all⟩ := moved
  rw [none, List.forall₂_nil_right_iff] at all
  rw [all] at perm
  exact perm.eq_nil

/-- Rearranged lists stay so when all items are replaced in a related way. -/
theorem map {γ δ : Type} {related : γ → δ → Prop} {left : α → γ} {right : β → δ} {first : List α}
    {second : List β} (moved : Rearranged holds first second)
    (each : ∀ item result, holds item result → related (left item) (right result)) :
    Rearranged related (first.map left) (second.map right) := by
  obtain ⟨middle, perm, all⟩ := moved
  refine ⟨middle.map left, perm.map left, ?_⟩
  exact List.forall₂_map_left_iff.mpr (List.forall₂_map_right_iff.mpr (all.imp each))

/-- Whatever items lead to, rearranged items lead to in a rearranged way. -/
theorem transport {γ : Type} {change : α → α → Prop} {makes : α → γ → Prop} {same : γ → γ → Prop}
    {items others : List α} {results : List γ} (moved : Rearranged change items others)
    (made : List.Forall₂ makes items results)
    (step : ∀ item other result, change item other → makes item result →
      ∃ next, makes other next ∧ same result next) :
    ∃ nexts, List.Forall₂ makes others nexts ∧ Rearranged same results nexts := by
  obtain ⟨middle, perm, changed⟩ := moved
  obtain ⟨between, madeBetween, permBetween⟩ := List.perm_comp_forall₂ perm.symm made
  obtain ⟨nexts, makesNexts, sameNexts⟩ := forall₂_transport changed madeBetween step
  exact ⟨nexts, makesNexts, between, permBetween.symm, sameNexts⟩

end Rearranged

end AccessPolicy
