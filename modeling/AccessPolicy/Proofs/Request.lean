import AccessPolicy.Proofs.FieldFault
import AccessPolicy.RequestDraft

/-! Requests that are built: of which parts, and from which principals. -/

namespace AccessPolicy

/-- Every kind of principal is read under its name, with a value of at least one character. -/
theorem RequestDraft.principalOf_eq_ok_iff {kind : PrincipalKind} {value : String}
    {principal : Principal} :
    principalOf kind.name value = .ok principal ↔ value ≠ "" ∧ principal = ⟨kind, value⟩ := by
  have named : Checked.choice "kind" PrincipalKind.named (some (.string kind.name)) = .ok kind := by
    cases kind <;> rfl
  have kindField : Json.find? "kind"
      [("kind", Json.string kind.name), ("value", Json.string value)] = some (.string kind.name) :=
    rfl
  have valueField : Json.find? "value"
      [("kind", Json.string kind.name), ("value", Json.string value)] = some (.string value) := rfl
  rw [principalOf, Principal.ofFields, kindField, valueField, named]
  split
  · rename_i found text both
    obtain ⟨same, filled⟩ := Checked.both_eq_ok_iff.mp both
    obtain ⟨present, rfl⟩ := Checked.filledText_eq_ok_iff.mp filled
    cases same
    simp [present, @eq_comm _ principal]
  · rename_i faults both
    refine iff_of_false (by simp) ?_
    intro ⟨present, _⟩
    have filled : Checked.filledText "value" (some (.string value)) = .ok value :=
      Checked.filledText_eq_ok_iff.mpr ⟨present, rfl⟩
    simp [filled, Checked.both] at both

/-- A request is built where its action and its resource have a character. -/
theorem Request.make_eq_ok_iff {action resource : String} {principal : Option Principal}
    {context : Context} {request : Request} :
    make (some (.string action)) (some (.string resource)) principal (.ok context) = .ok request ↔
      action ≠ "" ∧ resource ≠ "" ∧ request = ⟨action, resource, principal, context⟩ := by
  unfold make
  split
  · rename_i actionFound resourceFound contextFound both
    obtain ⟨actionFilled, others⟩ := Checked.both_eq_ok_iff.mp both
    obtain ⟨resourceFilled, same⟩ := Checked.both_eq_ok_iff.mp others
    obtain ⟨present, rfl⟩ := Checked.filledText_eq_ok_iff.mp actionFilled
    obtain ⟨there, rfl⟩ := Checked.filledText_eq_ok_iff.mp resourceFilled
    cases same
    simp [present, there, @eq_comm _ request]
  · rename_i faults both
    refine iff_of_false (by simp) ?_
    intro ⟨present, there, _⟩
    have actionFilled : Checked.filledText "action" (some (.string action)) = .ok action :=
      Checked.filledText_eq_ok_iff.mpr ⟨present, rfl⟩
    have resourceFilled : Checked.filledText "resource" (some (.string resource)) = .ok resource :=
      Checked.filledText_eq_ok_iff.mpr ⟨there, rfl⟩
    simp [actionFilled, resourceFilled, Checked.both] at both

end AccessPolicy
