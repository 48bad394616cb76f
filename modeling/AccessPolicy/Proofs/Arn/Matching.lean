import AccessPolicy.Proofs.Arn
import AccessPolicy.Proofs.Condition.Entry
import AccessPolicy.Proofs.Glob.LetterCase
import AccessPolicy.Proofs.Result

/-!
Resource names, matched as whole texts and part by part.

What matches part by part matches as a whole, since the colons between the parts match each other.
The other way round this holds for patterns with wildcards in their last part alone: elsewhere a
wildcard can take in a colon.
-/

namespace AccessPolicy.Arn

/-- Another resource name differs in the case of ASCII letters of its first two parts alone. -/
structure Recases (arn other : Arn) : Prop where
  partition : Text.AlikeInAscii arn.partition other.partition
  service : Text.AlikeInAscii arn.service other.service
  region : arn.region = other.region
  account : arn.account = other.account
  resource : arn.resource = other.resource

/-- No part before the last has a wildcard. -/
structure PlainFront (arn : Arn) : Prop where
  partition : Glob.hasWildcard arn.partition = false
  service : Glob.hasWildcard arn.service = false
  region : Glob.hasWildcard arn.region = false
  account : Glob.hasWildcard arn.account = false

variable {arn other parts : Arn} {pattern candidate : String}

/-- A resource name is in the case in which it is. -/
theorem Recases.refl (arn : Arn) : arn.Recases arn := ⟨rfl, rfl, rfl, rfl, rfl⟩

/-- A resource name in another case is read from its text. -/
theorem Recases.read?_text (recases : arn.Recases other) (read : read? candidate = some arn) :
    read? other.text = some other := by
  have divided := (read?_eq_some_iff.mp read).1
  have colon : ':'.isAlpha = false := rfl
  have dividedToo : other.Divided := by
    refine ⟨?_, ?_, ?_, ?_⟩
    · exact mt (recases.partition.mem_iff colon).mpr divided.partition
    · exact mt (recases.service.mem_iff colon).mpr divided.service
    · exact recases.region ▸ divided.region
    · exact recases.account ▸ divided.account
  exact read?_eq_some_iff.mpr ⟨dividedToo, rfl⟩

/-- All five parts match, the first two as names and the others as patterns. -/
theorem acceptsParts_iff {names : String → String → Bool} :
    acceptsParts names parts arn = true ↔
      names parts.partition arn.partition = true ∧ names parts.service arn.service = true ∧
        Glob.accepts parts.region arn.region = true ∧
        Glob.accepts parts.account arn.account = true ∧
        Glob.accepts parts.resource arn.resource = true := by
  simp only [acceptsParts, Bool.and_eq_true, and_assoc]

/-- A resource name matches itself, even if there are wildcards in it. -/
theorem accepts_self (arn : Arn) : arn.accepts arn = true :=
  acceptsParts_iff.mpr ⟨Glob.accepts_self _, Glob.accepts_self _, Glob.accepts_self _,
    Glob.accepts_self _, Glob.accepts_self _⟩

/-- Part by part, the case of the first two parts counts on neither side. -/
theorem acceptsFolded_congr {partsToo : Arn} (recases : parts.Recases partsToo)
    (recasesToo : arn.Recases other) : parts.acceptsFolded arn = partsToo.acceptsFolded other := by
  rw [acceptsFolded, acceptsFolded, acceptsParts, acceptsParts,
    Glob.acceptsAnyCase_congr recases.partition recasesToo.partition,
    Glob.acceptsAnyCase_congr recases.service recasesToo.service, recases.region,
    recases.account, recases.resource, recasesToo.region, recasesToo.account, recasesToo.resource]

/-- What matches part by part does so whatever the case of the first two parts. -/
theorem acceptsFolded_of_accepts (accepted : parts.accepts arn = true) :
    parts.acceptsFolded arn = true := by
  obtain ⟨partition, service, others⟩ := acceptsParts_iff.mp accepted
  exact acceptsParts_iff.mpr ⟨Glob.acceptsAnyCase_of_accepts partition,
    Glob.acceptsAnyCase_of_accepts service, others⟩

/-- What matches part by part matches as a whole. -/
theorem accepts_text_of_accepts (accepted : parts.accepts arn = true) :
    Glob.accepts parts.text arn.text = true := by
  have glue {first second earlier later : List Char} (left : Glob.Produces first earlier)
      (right : Glob.Produces second later) :
      Glob.Produces (first ++ ':' :: second) (earlier ++ ':' :: later) :=
    -- A colon of the pattern produces the colon of the name.
    Glob.produces_append left (Glob.produces_append (Glob.produces_self [':']) right)
  have matching := acceptsParts_iff.mp accepted
  simp only [Glob.accepts_iff_produces] at matching
  obtain ⟨partition, service, region, account, resource⟩ := matching
  rw [Glob.accepts_iff_produces, toList_text, toList_text]
  have mark : Glob.Produces "arn".toList "arn".toList := Glob.produces_self _
  exact glue mark (glue partition (glue service (glue region (glue account resource))))

/-- A part without wildcards in front of a colon produces nothing but itself there. -/
theorem exists_of_produces_plain {part : String} {later chars : List Char}
    (literal : Glob.hasWildcard part = false)
    (produces : Glob.Produces (part.toList ++ ':' :: later) chars) :
    ∃ behind, chars = part.toList ++ ':' :: behind ∧ Glob.Produces later behind := by
  have plain := Glob.plain_of_not_hasWildcard (Bool.eq_false_iff.mp literal)
  obtain ⟨before, rest, rfl, left, right⟩ := Glob.exists_of_produces_append produces
  rw [← List.singleton_append] at right
  obtain ⟨colon, behind, rfl, mark, produced⟩ := Glob.exists_of_produces_append right
  rw [← (Glob.produces_iff_of_plain plain).mp left,
    ← (Glob.produces_iff_of_plain (by simp)).mp mark]
  exact ⟨behind, rfl, produced⟩

/-- Without a wildcard before its last part, what a pattern matches as a whole matches in parts. -/
theorem PlainFront.accepts (front : parts.PlainFront) (divided : parts.Divided)
    (dividedToo : arn.Divided) (whole : Glob.accepts parts.text arn.text = true) :
    parts.accepts arn = true := by
  have literal : Glob.hasWildcard "arn" = false := by decide
  rw [Glob.accepts_iff_produces, toList_text] at whole
  -- The name starts like the pattern, one part after the other.
  obtain ⟨_, named, parted⟩ := exists_of_produces_plain literal whole
  obtain ⟨_, rfl, served⟩ := exists_of_produces_plain front.partition parted
  obtain ⟨_, rfl, placed⟩ := exists_of_produces_plain front.service served
  obtain ⟨_, rfl, owned⟩ := exists_of_produces_plain front.region placed
  obtain ⟨resource, rfl, produced⟩ := exists_of_produces_plain front.account owned
  -- So it is read as the parts of the pattern but for the last.
  have same : arn = { parts with resource := String.ofList resource } := by
    have read : read? arn.text = some arn := read?_eq_some_iff.mpr ⟨dividedToo, rfl⟩
    have readToo : read? arn.text = some { parts with resource := String.ofList resource } := by
      refine read?_eq_some_iff.mpr ⟨⟨divided.partition, divided.service, divided.region,
        divided.account⟩, String.toList_injective ?_⟩
      simp [named, toList_text]
    exact Option.some.inj (read.symm.trans readToo)
  rw [same]
  refine acceptsParts_iff.mpr ⟨Glob.accepts_self _, Glob.accepts_self _, Glob.accepts_self _,
    Glob.accepts_self _, ?_⟩
  rw [Glob.accepts_iff_produces, String.toList_ofList]
  exact produced

/-- The wildcard matches every text. -/
theorem accepts_wildcard (candidate : String) : Glob.accepts wildcard candidate = true := by
  have star : Glob.Replaces '*' candidate.toList := by simp [Glob.Replaces]
  exact Glob.accepts_iff_produces.mpr ⟨[candidate.toList], .cons star .nil, by simp⟩

/-- A resource pattern matches a name as a whole, or part by part with less regard to case. -/
theorem acceptsResource_iff (read : read? candidate = some arn) :
    acceptsResource pattern candidate = true ↔
      Glob.accepts pattern candidate = true ∨
        ∃ parts, read? pattern = some parts ∧ parts.acceptsFolded arn = true := by
  unfold acceptsResource
  split
  · rename_i everything
    simp [everything, accepts_wildcard]
  · split
    · simp [*]
    · rename_i missed
      rw [read]
      cases found : read? pattern with
      | none => simp [missed]
      | some parts => simp [missed]

/-- What operators on resource names accept is matched by an expected text as a resource pattern. -/
theorem exists_acceptsResource_of_compare {operator : Condition.Operator}
    (names : operator = .arnEquals ∨ operator = .arnLike) {value : String}
    {expected : List String} (held : operator.compare value expected = .ok true) :
    ∃ pattern ∈ expected, acceptsResource pattern value = true := by
  have typed : operator ≠ .null := by rcases names with rfl | rfl <;> decide
  have family : operator.family = .arn := by rcases names with rfl | rfl <;> rfl
  have positive : operator.negated = false := by rcases names with rfl | rfl <;> rfl
  rw [Condition.Operator.compare_eq typed, Except.ok.injEq, Condition.Operator.holds, family] at held
  cases read : read? value with
  | none => simp [Condition.Value.read?, read] at held
  | some arn =>
    simp only [Condition.Value.read?, read, Option.map_some, positive, Bool.bne_false,
      List.any_eq_true] at held
    obtain ⟨pattern, listed, accepted⟩ := held
    refine ⟨pattern, listed, (acceptsResource_iff read).mpr (Or.inl ?_)⟩
    rw [Condition.Operator.acceptsText, family] at accepted
    split at accepted
    · rename_i everything
      rw [everything.2]
      exact accepts_wildcard value
    · cases found : read? pattern with
      | none => simp [Condition.Value.read?, found] at accepted
      | some parts =>
        simp only [Condition.Value.read?, found, Option.map_some] at accepted
        have partwise : parts.accepts arn = true := accepted
        have texts := accepts_text_of_accepts partwise
        rwa [(read?_eq_some_iff.mp found).2, (read?_eq_some_iff.mp read).2] at texts

/--
Matching part by part is the narrower way to match resource names.

What it accepts, matching as a whole accepts, and so does matching part by part whatever the case of
partition and service. As a resource pattern it is then accepted in every such case of both sides.
So operators on resource names accept no value that none of their expected texts would match as a
resource pattern.
-/
theorem accepts_refines :
    (∀ (pattern candidate : String) (parts arn : Arn), read? pattern = some parts →
      read? candidate = some arn → parts.accepts arn = true →
        Glob.accepts pattern candidate = true ∧ parts.acceptsFolded arn = true ∧
        ∀ partsToo other : Arn, parts.Recases partsToo → arn.Recases other →
          acceptsResource partsToo.text other.text = true) ∧
    ∀ (operator : Condition.Operator) (expected : List String) (value : String),
      operator = .arnEquals ∨ operator = .arnLike → operator.compare value expected = .ok true →
        ∃ pattern ∈ expected, acceptsResource pattern value = true := by
  refine ⟨fun pattern candidate parts arn found read accepted => ?_,
    fun operator expected value names held => exists_acceptsResource_of_compare names held⟩
  have folded := acceptsFolded_of_accepts accepted
  refine ⟨?_, folded, fun partsToo other recases recasesToo => ?_⟩
  · have whole := accepts_text_of_accepts accepted
    rwa [(read?_eq_some_iff.mp found).2, (read?_eq_some_iff.mp read).2] at whole
  · -- In another case the texts may no longer match as a whole, but the parts still do.
    rw [acceptsFolded_congr recases recasesToo] at folded
    exact (acceptsResource_iff (recasesToo.read?_text read)).mpr
      (Or.inr ⟨partsToo, recases.read?_text found, folded⟩)

/-- A pattern with wildcards in two parts and colons in the last matches in capitals as well. -/
theorem accepts_refines_logs :
    Glob.accepts "arn:aws:s*:::logs:*/?" "arn:aws:s3:::logs:a:b/c" = true ∧
      acceptsResource "arn:AWS:S*:::logs:*/?" "arn:aWs:S3:::logs:a:b/c" = true ∧
      ∃ pattern ∈ ["arn:aws:sqs:::*", "arn:aws:s*:::logs:*/?"],
        acceptsResource pattern "arn:aws:s3:::logs:a:b/c" = true := by
  obtain ⟨parts, operators⟩ := accepts_refines
  obtain ⟨whole, -, recased⟩ := parts "arn:aws:s*:::logs:*/?" "arn:aws:s3:::logs:a:b/c"
    ⟨"aws", "s*", "", "", "logs:*/?"⟩ ⟨"aws", "s3", "", "", "logs:a:b/c"⟩
    (by decide +kernel) (by decide +kernel) (by decide +kernel)
  refine ⟨whole, ?_, operators .arnLike _ _ (by decide) ?_⟩
  · exact recased ⟨"AWS", "S*", "", "", "logs:*/?"⟩ ⟨"aWs", "S3", "", "", "logs:a:b/c"⟩
      ⟨by decide, by decide, rfl, rfl, rfl⟩ ⟨by decide, by decide, rfl, rfl, rfl⟩
  · exact eq_ok_of_toOption (by decide +kernel)

end AccessPolicy.Arn
