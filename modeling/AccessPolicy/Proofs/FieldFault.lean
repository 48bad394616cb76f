import AccessPolicy.FieldFault

/-! Fields of records that are accepted: the values they have. -/

namespace AccessPolicy.Checked

variable {α β : Type}

/-- Two fields are accepted exactly where each of them is. -/
theorem both_eq_ok_iff {first : Checked α} {second : Checked β} {pair : α × β} :
    both first second = .ok pair ↔ first = .ok pair.1 ∧ second = .ok pair.2 := by
  cases first <;> cases second <;> simp [both, Prod.ext_iff]

/-- A text is accepted where one is needed if it has a character. -/
theorem filledText_eq_ok_iff {name text result : String} :
    filledText name (some (.string text)) = .ok result ↔ text ≠ "" ∧ result = text := by
  have read : Checked.text name (some (.string text)) = .ok text := rfl
  rw [filledText, read]
  by_cases empty : text = ""
  · simp [empty, fail]
  · simp [empty, @eq_comm _ text]

end AccessPolicy.Checked
