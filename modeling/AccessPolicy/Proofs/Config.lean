import AccessPolicy.Config
import AccessPolicy.Proofs.Context.Sources
import AccessPolicy.Proofs.FieldFault

/-! What settings contribute to requests: the texts of the object for the context. -/

namespace AccessPolicy

namespace Config

/-- A record without unknown members is what its known members make of it. -/
theorem eq_ok_of_onlyKnown {α : Type} {known : List String} {members : List (String × Json)}
    {checked : Checked α} {value : α} (accepted : onlyKnown known members checked = .ok value) :
    checked = .ok value := by
  unfold onlyKnown at accepted
  split at accepted
  · exact accepted
  · cases accepted

/-- A record within a record is missing, or it is an object that is read. -/
theorem recordOf_eq_ok_iff {α : Type} {name type : String} {missing result : α}
    {read : List (String × Json) → Checked α} {value : Option Json} :
    recordOf name type missing read value = .ok result ↔
      value = none ∧ result = missing ∨
        ∃ members, value = some (.object members) ∧ read members = .ok result := by
  unfold recordOf
  split
  · simp [eq_comm]
  · rename_i members
    simp [mapError_eq_ok_iff]
  · rename_i other present object
    -- A value that is there and no object is a fault.
    refine iff_of_false (by simp [Checked.fail]) ?_
    rintro (⟨missing, -⟩ | ⟨members, found, -⟩)
    · cases missing
    · exact object members (Option.some.inj found)

/-- The context that every request has is empty, or made of the members of an object. -/
theorem values?_contextOf {value : Option Json} {context : Context}
    (read : contextOf value = .ok context) :
    context.Orderly ∧ ∀ name, (context.values? name).getD [] =
      ((value.map (Json.membersAt [])).getD []).flatMap fun member =>
        Context.memberValues member name := by
  unfold contextOf at read
  split at read
  · cases read
    exact ⟨Context.orderly_empty, fun name => by simp [Context.values?, Context.empty]⟩
  · split at read
    · rename_i built
      cases read
      exact Context.values?_ofMembers built
    · cases read
  · cases read

/-- Settings give the texts of the object for the context, under every name and in their order. -/
theorem values?_ofTree {tree : Json} {config : Config} (read : ofTree tree = .ok config) :
    config.defaultContext.Orderly ∧ ∀ name, (config.defaultContext.values? name).getD [] =
      Context.valuesAt ["evaluation", "default_context"] tree name := by
  cases tree with
  | object members =>
    obtain ⟨⟨⟨level, file⟩, context⟩, accepted, rfl⟩ := map_eq_ok_iff.mp read
    have evaluation := (Checked.both_eq_ok_iff.mp (eq_ok_of_onlyKnown accepted)).2
    rcases recordOf_eq_ok_iff.mp evaluation with ⟨missing, same⟩ | ⟨inner, found, read⟩
    · rw [show context = Context.empty from same]
      exact ⟨Context.orderly_empty, fun name => by
        simp [Context.valuesAt, Json.membersAt, missing, Context.values?, Context.empty]⟩
    · obtain ⟨orderly, values⟩ := values?_contextOf (eq_ok_of_onlyKnown read)
      refine ⟨orderly, fun name => ?_⟩
      rw [values, Context.valuesAt, Json.membersAt, found]
      rfl
  | _ => cases read

end Config

end AccessPolicy
