import AccessPolicy.Proofs.Glob.LetterCase

/-!
Patterns without wildcards, which are compared with texts as a whole and not place by place.

Where letter case counts both comparisons are the same. Where it does not, one looks at the lower
cases of two texts and the other at the classes of their characters.
-/

namespace AccessPolicy.Glob

variable {same : Same} {chars : List Char} {pattern candidate : String}

/-- Characters that stand for themselves lead to the texts of the same characters one by one. -/
theorem yields_literals_iff {letters : List Char} :
    Yields same (letters.map .literal) chars ↔
      List.Forall₂ (fun c d => same c d = true) letters chars := by
  induction letters generalizing chars with
  | nil => rw [List.map_nil, yields_nil_iff, List.forall₂_nil_left_iff]
  | cons c later ih =>
    have step : Yields same ((c :: later).map .literal) chars ↔
        ∃ before behind, chars = before ++ behind ∧ Yields same [.literal c] before ∧
          Yields same (later.map .literal) behind := by
      rw [List.map_cons, ← List.singleton_append, yields_append_iff]
    rw [step, List.forall₂_cons_left_iff]
    simp only [yields_singleton_iff, Stands, ih]
    constructor
    · rintro ⟨_, behind, split, ⟨d, alike, rfl⟩, others⟩
      exact ⟨d, behind, alike, others, split⟩
    · rintro ⟨d, behind, alike, others, split⟩
      exact ⟨[d], behind, split, ⟨d, alike, rfl⟩, others⟩

/-- Without a wildcard every place of a pattern is the character that is written there. -/
theorem ofString_of_plain (plain : hasWildcard pattern = false) :
    ofString pattern = pattern.toList.map .literal := by
  have marks := plain_of_not_hasWildcard (Bool.eq_false_iff.mp plain)
  refine List.map_congr_left fun c inside => ?_
  rw [ofChar, if_neg (marks c inside).1, if_neg (marks c inside).2]

/-- Place by place, a pattern without wildcards leads to the texts of the same classes. -/
theorem yields_sameLetter_iff_of_plain (plain : hasWildcard pattern = false) :
    Yields sameLetter (ofString pattern) chars ↔
      pattern.toList.map Text.caseKey = chars.map Text.caseKey := by
  rw [ofString_of_plain plain, yields_literals_iff, ← forall₂_map_eq_iff]
  simp only [sameLetter, beq_iff_eq]

/-- Behind a star anything may follow the texts that a pattern leads to place by place. -/
theorem acceptsAnyCase_star_iff : acceptsAnyCase (pattern ++ "*") candidate = true ↔
    ∃ before behind, candidate.toList = before ++ behind ∧
      Yields sameLetter (ofString pattern) before := by
  have starred : hasWildcard (pattern ++ "*") = true := by
    simp [hasWildcard]
  have places : ofString (pattern ++ "*") = ofString pattern ++ [.many] := by
    simp [ofString, ofChar]
  rw [acceptsAnyCase, if_pos starred, matchesChars_iff, places, yields_append_iff]
  simp only [yields_singleton_iff, Stands, and_true]

/-- Texts of plain characters are compared as a whole as they are place by place. -/
theorem acceptsAnyCase_iff_of_plain (literal : hasWildcard pattern = false)
    (plain : ∀ c ∈ pattern.toList, Text.HasPlainCase c)
    (plainToo : ∀ c ∈ candidate.toList, Text.HasPlainCase c) :
    acceptsAnyCase pattern candidate = true ↔
      Yields sameLetter (ofString pattern) candidate.toList := by
  rw [acceptsAnyCase, if_neg (Bool.eq_false_iff.mp literal), beq_iff_eq,
    Text.lower_eq_iff_of_plain plain plainToo, yields_sameLetter_iff_of_plain literal]

/-- A star behind a pattern without wildcards adds no text of the pattern's own length. -/
theorem acceptsAnyCase_of_star (literal : hasWildcard pattern = false)
    (plain : ∀ c ∈ pattern.toList, Text.HasPlainCase c)
    (plainToo : ∀ c ∈ candidate.toList, Text.HasPlainCase c)
    (long : candidate.length = pattern.length)
    (starred : acceptsAnyCase (pattern ++ "*") candidate = true) :
    acceptsAnyCase pattern candidate = true := by
  obtain ⟨before, behind, split, yields⟩ := acceptsAnyCase_star_iff.mp starred
  have classes := (yields_sameLetter_iff_of_plain literal).mp yields
  -- The pattern takes as many characters as it has, so the star is left with none.
  have taken : pattern.toList.length = before.length := by
    simpa using congrArg List.length classes
  have whole : candidate.toList.length = before.length + behind.length := by
    rw [split, List.length_append]
  rw [String.length_toList] at taken whole
  have rest : behind = [] := List.eq_nil_of_length_eq_zero (by omega)
  rw [rest, List.append_nil] at split
  rw [acceptsAnyCase_iff_of_plain literal plain plainToo, split]
  exact yields

/-- A character without a plain case is matched in two ways that differ on some text. -/
theorem exists_shortcut_ne {c : Char} (odd : ¬ Text.HasPlainCase c) :
    ∃ candidate : String, acceptsAnyCase (String.singleton c) candidate ≠
      matchesChars sameLetter (ofString (String.singleton c)) candidate.toList := by
  obtain ⟨other, parted⟩ := Text.exists_parted_of_not_plain odd
  refine ⟨String.ofList other, fun agree => parted ?_⟩
  have literal : hasWildcard (String.singleton c) = false := by
    -- The wildcards are in ASCII, where all characters have a plain case.
    have apart {mark : Char} (ascii : mark.toNat < 128) : c ≠ mark := by
      rintro rfl
      exact odd (Text.plain_of_ascii ascii).1
    have star : c ≠ '*' := apart (by decide)
    have mark : c ≠ '?' := apart (by decide)
    simp [hasWildcard, star, mark]
  rw [Bool.eq_iff_iff, matchesChars_iff, yields_sameLetter_iff_of_plain literal, acceptsAnyCase,
    if_neg (Bool.eq_false_iff.mp literal), beq_iff_eq, Text.lower, Text.lower,
    String.ofList_inj, String.toList_ofList, String.toList_singleton] at agree
  exact agree

/--
Without wildcards, comparing texts as a whole is matching them place by place where case counts.

Where it does not, this is so for texts of characters with a plain case. For these a star behind
the pattern lets further characters follow, and does nothing else. Every other character is a
pattern for which the two ways differ on some text.
-/
theorem shortcut_agrees (pattern candidate : String) (literal : hasWildcard pattern = false) :
    accepts pattern candidate = matchesChars sameExactly (ofString pattern) candidate.toList ∧
    ((∀ c ∈ pattern.toList, Text.HasPlainCase c) → (∀ c ∈ candidate.toList, Text.HasPlainCase c) →
      acceptsAnyCase pattern candidate =
          matchesChars sameLetter (ofString pattern) candidate.toList ∧
        (acceptsAnyCase pattern candidate = true →
          acceptsAnyCase (pattern ++ "*") candidate = true) ∧
        (candidate.length = pattern.length → acceptsAnyCase (pattern ++ "*") candidate = true →
          acceptsAnyCase pattern candidate = true)) ∧
    ∀ c : Char, ¬ Text.HasPlainCase c → ∃ other : String,
      acceptsAnyCase (String.singleton c) other ≠
        matchesChars sameLetter (ofString (String.singleton c)) other.toList := by
  refine ⟨?_, fun plain plainToo => ?_, fun c odd => exists_shortcut_ne odd⟩
  · rw [Bool.eq_iff_iff, accepts_iff_produces, matchesChars_iff, yields_ofString_iff]
  · have whole := acceptsAnyCase_iff_of_plain literal plain plainToo
    refine ⟨?_, fun accepted => ?_, acceptsAnyCase_of_star literal plain plainToo⟩
    · rw [Bool.eq_iff_iff, whole, matchesChars_iff]
    · -- The star takes the empty text.
      exact acceptsAnyCase_star_iff.mpr
        ⟨candidate.toList, [], (List.append_nil _).symm, whole.mp accepted⟩

/-- An action is matched in both ways, with and without a star, and a long s is not. -/
theorem shortcut_agrees_passRole :
    acceptsAnyCase "iam:PassRole" "IAM:passrole" =
        matchesChars sameLetter (ofString "iam:PassRole") "IAM:passrole".toList ∧
      acceptsAnyCase ("iam:PassRole" ++ "*") "IAM:passrole" = true ∧
      acceptsAnyCase "iam:PassRole" "IAM:passrole" = true ∧
      ∃ candidate : String, acceptsAnyCase "\u017F" candidate ≠
        matchesChars sameLetter (ofString "\u017F") candidate.toList := by
  have ascii : Text.IsAscii "iam:PassRole" := by decide
  have asciiToo : Text.IsAscii "IAM:passrole" := by decide
  obtain ⟨-, same, odd⟩ := shortcut_agrees "iam:PassRole" "IAM:passrole" (by decide)
  obtain ⟨agrees, starred, back⟩ := same ascii.plain asciiToo.plain
  have further := starred (by decide +kernel)
  exact ⟨agrees, further, back (by decide) further, odd (Char.ofNat 0x17F) (by decide)⟩

/--
Comparing as a whole misses texts that are matched place by place, and matches texts that are not.

The long s has the capital of the plain s and is its own lower case. The dotted capital I has the
lower case of two characters.
-/
theorem shortcut_differs :
    (acceptsAnyCase "iam:PassRole" "iam:Pa\u017FsRole" = false ∧
      matchesChars sameLetter (ofString "iam:PassRole") "iam:Pa\u017FsRole".toList = true ∧
      acceptsAnyCase ("iam:PassRole" ++ "*") "iam:Pa\u017FsRole" = true) ∧
    acceptsAnyCase "i\u0307am:PassRole" "\u0130am:PassRole" = true ∧
      matchesChars sameLetter (ofString "i\u0307am:PassRole") "\u0130am:PassRole".toList = false ∧
      acceptsAnyCase ("i\u0307am:PassRole" ++ "*") "\u0130am:PassRole" = false := by
  decide +kernel

end AccessPolicy.Glob
