import AccessPolicy.Principal
import AccessPolicy.Proofs.Arn

/-! Principals of accounts: a bare account number and the name of its root user are one. -/

namespace AccessPolicy.PrincipalBlock

/-- Candidates of one full name match the same patterns. -/
theorem acceptsAws_congr {candidate other : String} (same : fullName candidate = fullName other)
    (pattern : String) : acceptsAws pattern candidate = acceptsAws pattern other := by
  -- A candidate is looked at through its full name only.
  unfold acceptsAws
  rw [same]

/-- What is no resource name and no account number is matched by the wildcard alone. -/
theorem eq_wildcard_of_acceptsAws {pattern candidate : String}
    (unshaped : Arn.hasShape candidate = false) (unnumbered : Arn.isAccountId candidate = false)
    (accepted : acceptsAws pattern candidate = true) : pattern = Arn.wildcard := by
  have unread : Arn.read? (fullName candidate) = none := by
    simp [fullName, unnumbered, Arn.read?, unshaped]
  by_cases everyone : pattern = Arn.wildcard
  · exact everyone
  · -- Any other pattern asks for the parts of a resource name.
    simp [acceptsAws, everyone, unread] at accepted

variable {account : String} (number : Arn.IsAccountNumber account)
include number

/-- The full name of an account number is the name of the root user. -/
theorem fullName_account : fullName account = Arn.accountRoot account "aws" :=
  if_pos (Arn.isAccountId_iff.mpr number)

/-- The name of a root user is its own full name. -/
theorem fullName_root :
    fullName (Arn.accountRoot account "aws") = Arn.accountRoot account "aws" := by
  -- It is too long for an account number.
  rw [fullName, number.isAccountId_root, if_neg Bool.false_ne_true]

/-- The two spellings of a root user have one full name. -/
theorem fullName_account_eq : fullName account = fullName (Arn.accountRoot account "aws") :=
  (fullName_account number).trans (fullName_root number).symm

/-- An account number is not the wildcard. -/
theorem account_ne_wildcard : account ≠ Arn.wildcard := by
  intro same
  have star : '*' ∉ account.toList := number.not_mem (by decide)
  exact star (by simp [same, Arn.wildcard])

/-- A bare account number matches itself and every resource name of the account. -/
theorem acceptsAws_account_iff {candidate : String} :
    acceptsAws account candidate = true ↔
      candidate = account ∨
        ∃ arn : Arn, arn.Divided ∧ arn.text = candidate ∧ arn.account = account := by
  have read : acceptsAws account candidate = true ↔
      ∃ arn, Arn.read? (fullName candidate) = some arn ∧ arn.account = account := by
    rw [acceptsAws, if_neg (account_ne_wildcard number)]
    cases Arn.read? (fullName candidate) <;> simp [Arn.isAccountId_iff.mpr number]
  rw [read]
  by_cases bare : Arn.IsAccountNumber candidate
  · -- The root user of the candidate is in no other account.
    rw [fullName_account bare, bare.read?_root]
    have unread (arn : Arn) : ¬ (arn.Divided ∧ arn.text = candidate) := by
      rw [← Arn.read?_eq_some_iff, Arn.read?, bare.hasShape_eq_false]
      simp
    constructor
    · intro named
      obtain ⟨arn, found, inside⟩ := named
      cases found
      exact Or.inl inside
    · intro named
      rcases named with rfl | ⟨arn, divided, written, _⟩
      · exact ⟨_, rfl, rfl⟩
      · exact absurd ⟨divided, written⟩ (unread arn)
  · -- Any other candidate is its own full name.
    have unnumbered : ¬ Arn.isAccountId candidate = true := fun found =>
      bare (Arn.isAccountId_iff.mp found)
    have other : candidate ≠ account := fun same => bare (same ▸ number)
    rw [fullName, if_neg unnumbered]
    simp only [Arn.read?_eq_some_iff, and_assoc, other, false_or]

/-- Whatever matches the name of a root user matches the bare account number. -/
theorem acceptsAws_account_of_root {candidate : String}
    (accepted : acceptsAws (Arn.accountRoot account "aws") candidate = true) :
    acceptsAws account candidate = true := by
  have named : Arn.accountRoot account "aws" ≠ Arn.wildcard := by
    intro same
    simpa [same, Arn.wildcard, Glob.hasWildcard] using number.hasWildcard_root
  rw [acceptsAws, if_neg named] at accepted
  split at accepted
  · cases accepted
  · -- Without a wildcard in it the name matches no full name but itself.
    simp only [number.isAccountId_root, Bool.false_eq_true, if_false, Glob.accepts,
      number.hasWildcard_root, beq_iff_eq] at accepted
    have same : fullName candidate = fullName account :=
      accepted.symm.trans (fullName_account number).symm
    rw [acceptsAws_congr same]
    exact (acceptsAws_account_iff number).mpr (Or.inl rfl)

end AccessPolicy.PrincipalBlock
