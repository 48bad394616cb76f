import AccessPolicy.Proofs.Result

/-! The first item of a list without a property, which is where a search for a fault ends. -/

namespace AccessPolicy

variable {α : Type}

/-- An item is the first one of a list without a property. -/
def IsFirstWithout (fits : α → Prop) (items : List α) (item : α) : Prop :=
  -- Later items may have the property or not.
  ∃ before after, items = before ++ item :: after ∧ (∀ other ∈ before, fits other) ∧ ¬ fits item

variable {fits : α → Prop} {first item : α} {items later : List α}

/-- Such an item does not have the property. -/
theorem IsFirstWithout.unfit (firstWithout : IsFirstWithout fits items item) : ¬ fits item := by
  obtain ⟨before, after, -, -, unfit⟩ := firstWithout
  exact unfit

/-- Such an item is in the list. -/
theorem IsFirstWithout.mem (firstWithout : IsFirstWithout fits items item) : item ∈ items := by
  obtain ⟨before, after, split, -, -⟩ := firstWithout
  simp [split]

/-- An empty list has no such item. -/
theorem not_isFirstWithout_nil : ¬ IsFirstWithout fits [] item := by
  intro ⟨before, after, split, _⟩
  simp at split

/-- The item is the head of a list, or the head has the property and the item is behind it. -/
theorem isFirstWithout_cons_iff :
    IsFirstWithout fits (first :: later) item ↔
      item = first ∧ ¬ fits first ∨ fits first ∧ IsFirstWithout fits later item := by
  constructor
  · intro ⟨before, after, split, earlier, unfit⟩
    cases before with
    | nil =>
      obtain ⟨rfl, -⟩ := List.cons_eq_cons.mp split
      exact Or.inl ⟨rfl, unfit⟩
    | cons other rest =>
      obtain ⟨rfl, behind⟩ := List.cons_eq_cons.mp split
      obtain ⟨fitting, earlier⟩ := List.forall_mem_cons.mp earlier
      exact Or.inr ⟨fitting, rest, after, behind, earlier, unfit⟩
  · rintro (⟨rfl, unfit⟩ | ⟨fitting, before, after, rfl, earlier, unfit⟩)
    · exact ⟨[], later, rfl, by simp, unfit⟩
    · exact ⟨first :: before, after, rfl, List.forall_mem_cons.mpr ⟨fitting, earlier⟩, unfit⟩

/-- A list is split in one way at its first item without a property. -/
theorem split_unique {other : α} {front after others rest : List α}
    (same : front ++ item :: after = others ++ other :: rest)
    (earlier : ∀ item ∈ front, fits item) (unfit : ¬ fits item)
    (earlierToo : ∀ item ∈ others, fits item) (unfitToo : ¬ fits other) :
    front = others ∧ item = other := by
  induction front generalizing others with
  | nil =>
    cases others with
    | nil => exact ⟨rfl, (List.cons.inj same).1⟩
    | cons head tail =>
      obtain ⟨rfl, -⟩ := List.cons.inj same
      exact absurd (earlierToo item List.mem_cons_self) unfit
  | cons first later ih =>
    cases others with
    | nil =>
      obtain ⟨rfl, -⟩ := List.cons.inj same
      exact absurd (earlier first List.mem_cons_self) unfitToo
    | cons head tail =>
      obtain ⟨rfl, behind⟩ := List.cons.inj same
      obtain ⟨rfl, rfl⟩ := ih behind (List.forall_mem_cons.mp earlier).2
        (List.forall_mem_cons.mp earlierToo).2
      exact ⟨rfl, rfl⟩

/-- What a search by the opposite of a test finds is the first item that fails the test. -/
theorem find?_not_eq_some_iff {test : α → Bool} (decides : ∀ item, test item = true ↔ fits item) :
    (items.find? fun item => !test item) = some item ↔ IsFirstWithout fits items item := by
  simp only [List.find?_eq_some_iff_append, IsFirstWithout, Bool.not_not, Bool.not_eq_true',
    ← Bool.not_eq_true, decides]
  constructor
  · intro ⟨unfit, before, after, split, earlier⟩
    exact ⟨before, after, split, earlier, unfit⟩
  · intro ⟨before, after, split, earlier, unfit⟩
    exact ⟨unfit, before, after, split, earlier⟩

section Faults

variable {ε : Type} {breaks : α → ε → Prop} {fault : ε}

/-- The first faulty item of a list is the head with its fault, or it is behind a faultless head. -/
theorem exists_first_breaks_cons_iff :
    (∃ item, IsFirstWithout fits (first :: later) item ∧ breaks item fault) ↔
      ¬ fits first ∧ breaks first fault ∨
        fits first ∧ ∃ item, IsFirstWithout fits later item ∧ breaks item fault := by
  simp only [isFirstWithout_cons_iff, or_and_right, exists_or, and_assoc, exists_eq_left,
    exists_and_left]

/-- A search for faults finds that of the first faulty item. -/
theorem findSome?_eq_some_iff_first {fault? : α → Option ε}
    (passes : ∀ item, fault? item = none ↔ fits item)
    (fails : ∀ item fault, fault? item = some fault ↔ breaks item fault) :
    items.findSome? fault? = some fault ↔
      ∃ item, IsFirstWithout fits items item ∧ breaks item fault := by
  induction items with
  | nil => simp [not_isFirstWithout_nil]
  | cons first later ih =>
    rw [exists_first_breaks_cons_iff, ← ih, ← passes, ← fails, List.findSome?_cons]
    cases fault? first <;> simp

/-- A run of steps ends at the first item for which a step has a fault, whatever the state is. -/
theorem foldlM_eq_error_iff {σ : Type} {step : σ → α → Except ε σ}
    (passes : ∀ state item, (∃ next, step state item = .ok next) ↔ fits item)
    (fails : ∀ state item fault, step state item = .error fault ↔ breaks item fault)
    {start : σ} :
    items.foldlM step start = .error fault ↔
      ∃ item, IsFirstWithout fits items item ∧ breaks item fault := by
  induction items generalizing start with
  | nil => simp [not_isFirstWithout_nil, pure, Except.pure]
  | cons first later ih =>
    rw [exists_first_breaks_cons_iff, List.foldlM_cons, ← passes start, ← fails start]
    cases step start first with
    | error other => simp [Bind.bind, Except.bind]
    | ok next => simp [Bind.bind, Except.bind, ih]

end Faults

end AccessPolicy
