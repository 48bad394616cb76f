/-! Results that are either a value or a fault. -/

namespace AccessPolicy

/-- Two steps succeed where the first does, and the second does with its result. -/
theorem bind_eq_ok_iff {α β ε : Type} {first : Except ε α} {second : α → Except ε β} {result : β} :
    first >>= second = .ok result ↔ ∃ middle, first = .ok middle ∧ second middle = .ok result := by
  cases first with
  | error fault => simp [Bind.bind, Except.bind]
  | ok middle => simp [Bind.bind, Except.bind]

/-- Two steps fail where the first does, or the second does with the result of the first. -/
theorem bind_eq_error_iff {α β ε : Type} {first : Except ε α} {second : α → Except ε β}
    {fault : ε} : first >>= second = .error fault ↔
      first = .error fault ∨ ∃ middle, first = .ok middle ∧ second middle = .error fault := by
  cases first with
  | error other => simp [Bind.bind, Except.bind]
  | ok middle => simp [Bind.bind, Except.bind]

/-- A result that is made from another by a function is made from its value. -/
theorem map_eq_ok_iff {α β ε : Type} {first : Except ε α} {make : α → β} {result : β} :
    first.map make = .ok result ↔ ∃ value, first = .ok value ∧ make value = result := by
  cases first with
  | error fault => simp [Except.map]
  | ok value => simp [Except.map]

/-- A result that is made from another has the fault of that. -/
theorem map_eq_error_iff {α β ε : Type} {first : Except ε α} {make : α → β} {fault : ε} :
    first.map make = .error fault ↔ first = .error fault := by
  cases first with
  | error other => simp [Except.map]
  | ok value => simp [Except.map]

/-- A value is no fault that could be reworded. -/
theorem mapError_ok {α ε φ : Type} {reword : ε → φ} {value : α} :
    (Except.ok value : Except ε α).mapError reword = .ok value := rfl

/-- A fault is reworded. -/
theorem mapError_error {α ε φ : Type} {reword : ε → φ} {fault : ε} :
    (Except.error fault : Except ε α).mapError reword = .error (reword fault) := rfl

/-- A result whose faults are reworded is a value where it was one before. -/
theorem mapError_eq_ok_iff {α ε φ : Type} {first : Except ε α} {reword : ε → φ} {value : α} :
    first.mapError reword = .ok value ↔ first = .ok value := by
  cases first with
  | error fault => simp [mapError_error]
  | ok found => simp [mapError_ok]

/-- A result whose faults are reworded is a fault where it was one before. -/
theorem mapError_eq_error_iff {α ε φ : Type} {first : Except ε α} {reword : ε → φ} {fault : φ} :
    first.mapError reword = .error fault ↔ ∃ other, first = .error other ∧ reword other = fault := by
  cases first with
  | error other => simp [mapError_error]
  | ok found => simp [mapError_ok]

/-- The fault of a result that is no value. -/
def faultOf {α ε : Type} : Except ε α → Option ε
  -- A value has no fault.
  | .error fault => some fault
  | .ok _ => none

/-- A result with a fault is that fault. -/
theorem faultOf_eq_some_iff {α ε : Type} {result : Except ε α} {fault : ε} :
    faultOf result = some fault ↔ result = .error fault := by
  cases result <;> simp [faultOf]

/-- A result without a fault is a value. -/
theorem faultOf_eq_none_iff {α ε : Type} {result : Except ε α} :
    faultOf result = none ↔ ∃ value, result = .ok value := by
  cases result <;> simp [faultOf]

/-- A value is kept where faults are dropped exactly if it is the result. -/
theorem toOption_eq_some_iff {α ε : Type} {result : Except ε α} {value : α} :
    result.toOption = some value ↔ result = .ok value := by
  cases result with
  | error fault => simp [Except.toOption]
  | ok found => simp [Except.toOption]

/-- A result that is kept where faults are dropped is no fault. -/
theorem eq_ok_of_toOption {α ε : Type} {result : Except ε α} {value : α}
    (kept : result.toOption = some value) : result = .ok value :=
  toOption_eq_some_iff.mp kept

/-- A result of which nothing is kept where faults are dropped is a fault. -/
theorem exists_error_of_toOption {α ε : Type} {result : Except ε α}
    (dropped : result.toOption = none) : ∃ fault, result = .error fault := by
  cases result with
  | error fault => exact ⟨fault, rfl⟩
  | ok found => cases dropped

end AccessPolicy
