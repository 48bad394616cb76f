import AccessPolicy.Proofs.Arn.Matching

/-!
What the letter case of partition and service counts in resources.

Matching part by part does not see it. Matching as a whole does, and decides alone where a wildcard
of the pattern takes in a colon between the parts.
-/

namespace AccessPolicy.Arn

variable {arn other parts : Arn} {pattern candidate : String}

/-- Without a wildcard before its last part, a pattern matches as a whole only what has its parts. -/
theorem PlainFront.acceptsFolded (front : parts.PlainFront) (found : read? pattern = some parts)
    (read : read? candidate = some arn) (whole : Glob.accepts pattern candidate = true) :
    parts.acceptsFolded arn = true := by
  obtain ⟨divided, rfl⟩ := read?_eq_some_iff.mp found
  obtain ⟨dividedToo, rfl⟩ := read?_eq_some_iff.mp read
  exact acceptsFolded_of_accepts (front.accepts divided dividedToo whole)

/-- Two cases are told apart where matching as a whole does so and no parts match. -/
theorem acceptsResource_eq_iff (pattern : String) (read : read? candidate = some arn)
    (recases : arn.Recases other) :
    acceptsResource pattern candidate = acceptsResource pattern other.text ↔
      Glob.accepts pattern candidate = Glob.accepts pattern other.text ∨
        ∃ parts, read? pattern = some parts ∧ parts.acceptsFolded arn = true := by
  have folded (parts : Arn) : parts.acceptsFolded arn = parts.acceptsFolded other :=
    acceptsFolded_congr (.refl parts) recases
  have accepted : acceptsResource pattern candidate = true ↔
      Glob.accepts pattern candidate = true ∨
        ∃ parts, read? pattern = some parts ∧ parts.acceptsFolded arn = true :=
    acceptsResource_iff read
  have acceptedToo : acceptsResource pattern other.text = true ↔
      Glob.accepts pattern other.text = true ∨
        ∃ parts, read? pattern = some parts ∧ parts.acceptsFolded arn = true := by
    simp only [folded]
    exact acceptsResource_iff (recases.read?_text read)
  by_cases inParts : ∃ parts, read? pattern = some parts ∧ parts.acceptsFolded arn = true
  · have both := (accepted.mpr (Or.inr inParts)).trans (acceptedToo.mpr (Or.inr inParts)).symm
    exact iff_of_true both (Or.inr inParts)
  · -- Then matching as a whole is all there is.
    have whole : acceptsResource pattern candidate = Glob.accepts pattern candidate :=
      Bool.eq_iff_iff.mpr (accepted.trans (or_iff_left inParts))
    have wholeToo : acceptsResource pattern other.text = Glob.accepts pattern other.text :=
      Bool.eq_iff_iff.mpr (acceptedToo.trans (or_iff_left inParts))
    rw [whole, wholeToo, or_iff_left inParts]

/--
The case of partition and service counts only where matching as a whole decides alone.

Part by part, a pattern matches a resource in every case of the two or in none. So a resource
pattern tells two cases apart exactly where it matches as a whole in one case alone and does not
match part by part. The wildcard never does so, nor does a pattern without a wildcard before its
last part.
-/
theorem acceptsResource_recased (pattern candidate : String) (arn other : Arn)
    (read : read? candidate = some arn) (recases : arn.Recases other) :
    (∀ parts, read? pattern = some parts →
      parts.acceptsFolded arn = parts.acceptsFolded other) ∧
    (acceptsResource pattern candidate = acceptsResource pattern other.text ↔
      Glob.accepts pattern candidate = Glob.accepts pattern other.text ∨
        ∃ parts, read? pattern = some parts ∧ parts.acceptsFolded arn = true) ∧
    (pattern = wildcard ∨ (∃ parts, read? pattern = some parts ∧ parts.PlainFront) →
      acceptsResource pattern candidate = acceptsResource pattern other.text) := by
  have folded (parts : Arn) : parts.acceptsFolded arn = parts.acceptsFolded other :=
    acceptsFolded_congr (.refl parts) recases
  have alike := acceptsResource_eq_iff pattern read recases
  refine ⟨fun parts _ => folded parts, alike, ?_⟩
  rintro (rfl | ⟨parts, found, front⟩)
  · exact alike.mpr (Or.inl ((accepts_wildcard _).trans (accepts_wildcard _).symm))
  · refine alike.mpr ?_
    by_cases inParts : parts.acceptsFolded arn = true
    · exact Or.inr ⟨parts, found, inParts⟩
    · -- What does not match part by part does not match as a whole in either case.
      have missed := mt (front.acceptsFolded found read) inParts
      have missedToo := mt (front.acceptsFolded found (recases.read?_text read))
        (folded parts ▸ inParts)
      exact Or.inl ((Bool.eq_false_iff.mpr missed).trans (Bool.eq_false_iff.mpr missedToo).symm)

/-- A pattern in capitals with a wildcard at its end matches a resource in two mixed cases. -/
theorem acceptsResource_recased_logs :
    acceptsResource "arn:AWS:s3:::logs/*" "arn:aws:S3:::logs/a:b" =
        acceptsResource "arn:AWS:s3:::logs/*" "arn:Aws:s3:::logs/a:b" ∧
      acceptsResource "arn:AWS:s3:::logs/*" "arn:Aws:s3:::logs/a:b" = true := by
  obtain ⟨-, -, plain⟩ := acceptsResource_recased "arn:AWS:s3:::logs/*" "arn:aws:S3:::logs/a:b"
    ⟨"aws", "S3", "", "", "logs/a:b"⟩ ⟨"Aws", "s3", "", "", "logs/a:b"⟩ (by decide +kernel)
    ⟨by decide, by decide, rfl, rfl, rfl⟩
  have front : PlainFront ⟨"AWS", "s3", "", "", "logs/*"⟩ :=
    ⟨by decide, by decide, by decide, by decide⟩
  exact ⟨plain (Or.inr ⟨_, by decide +kernel, front⟩), by decide +kernel⟩

/-- A wildcard that takes in the colon before the service leaves a case of the service apart. -/
theorem acceptsResource_spanning :
    hasShape "arn:aws*s3:::logs:2024:*" = true ∧
      read? "arn:aws:s3:::logs:2024:x" = some ⟨"aws", "s3", "", "", "logs:2024:x"⟩ ∧
      Recases ⟨"aws", "s3", "", "", "logs:2024:x"⟩ ⟨"aws", "S3", "", "", "logs:2024:x"⟩ ∧
      text ⟨"aws", "S3", "", "", "logs:2024:x"⟩ = "arn:aws:S3:::logs:2024:x" ∧
      acceptsResource "arn:aws*s3:::logs:2024:*" "arn:aws:s3:::logs:2024:x" = true ∧
      acceptsResource "arn:aws*s3:::logs:2024:*" "arn:aws:S3:::logs:2024:x" = false := by
  refine ⟨by decide +kernel, by decide +kernel, ⟨by decide, by decide, rfl, rfl, rfl⟩,
    by decide +kernel, by decide +kernel, by decide +kernel⟩

end AccessPolicy.Arn
