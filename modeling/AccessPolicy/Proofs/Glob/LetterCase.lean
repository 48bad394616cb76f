import AccessPolicy.Proofs.Glob
import AccessPolicy.Proofs.Text.LetterCase

/-!
Patterns in which letter case does not count.

A pattern with wildcards compares characters by their classes, and one without them compares lower
cases. Either way the case of ASCII letters is not seen, and what matches exactly matches.
-/

namespace AccessPolicy.Glob

variable {same : Same} {chars : List Char} {pattern candidate : String}

/-- A text that places lead to is one they lead to when more characters are taken for the same. -/
theorem Yields.mono {wider : Same} (more : ∀ c d, same c d = true → wider c d = true)
    {places : List Glob} (yields : Yields same places chars) : Yields wider places chars := by
  obtain ⟨pieces, replaced, joined⟩ := yields
  refine ⟨pieces, replaced.imp fun place piece stands => ?_, joined⟩
  cases place with
  | literal c =>
    obtain ⟨d, alike, alone⟩ := stands
    exact ⟨d, more c d alike, alone⟩
  | one => exact stands
  | many => trivial

/-- What a pattern matches exactly it matches whatever the letter case. -/
theorem acceptsAnyCase_of_accepts (accepted : accepts pattern candidate = true) :
    acceptsAnyCase pattern candidate = true := by
  unfold accepts at accepted
  unfold acceptsAnyCase
  split
  · rename_i wild
    rw [if_pos wild, matchesChars_iff] at accepted
    rw [matchesChars_iff]
    refine accepted.mono fun c d alike => ?_
    rw [sameExactly, beq_iff_eq] at alike
    rw [sameLetter, alike, beq_self_eq_true]
  · rename_i plain
    rw [if_neg plain, beq_iff_eq] at accepted
    rw [accepted, beq_self_eq_true]

/-- A place with its character changed. -/
def mapLetter (change : Char → Char) : Glob → Glob
  -- Wildcards have no character.
  | .literal c => .literal (change c)
  | .one => .one
  | .many => .many

/-- A match without regard to letter case is an exact match of classes. -/
theorem matchesChars_sameLetter (places : List Glob) (chars : List Char) :
    matchesChars sameLetter places chars =
      matchesChars sameExactly (places.map (mapLetter Text.caseKey)) (chars.map Text.caseKey) := by
  have step (row : List Bool) (place : Glob) :
      advance sameExactly (chars.map Text.caseKey) row (place.mapLetter Text.caseKey) =
        advance sameLetter chars row place := by
    cases place with
    | literal c => simp only [mapLetter, advance, List.zipWith_map_right, sameExactly, sameLetter]
    | one => simp only [mapLetter, advance, List.zipWith_map_right]
    | many => rfl
  simp only [matchesChars, List.foldl_map, step, List.map_map, Function.comp_def]

/-- The place of a character, with the class in its stead, does not tell the case of letters. -/
theorem mapLetter_ofChar_toLower (c : Char) :
    (ofChar c.toLower).mapLetter Text.caseKey = (ofChar c).mapLetter Text.caseKey := by
  have star : c.toLower = '*' ↔ c = '*' := Text.toLower_eq_iff (by decide)
  have mark : c.toLower = '?' ↔ c = '?' := Text.toLower_eq_iff (by decide)
  simp only [ofChar, star, mark]
  split
  · rfl
  · split
    · rfl
    · rw [mapLetter, Text.caseKey_toLower, mapLetter]

/-- Patterns that differ in the case of ASCII letters have wildcards at the same places. -/
theorem hasWildcard_congr {other : String} (alike : Text.AlikeInAscii pattern other) :
    hasWildcard pattern = hasWildcard other := by
  refine alike.any_eq fun c => ?_
  have star : c.toLower = '*' ↔ c = '*' := Text.toLower_eq_iff (by decide)
  have mark : c.toLower = '?' ↔ c = '?' := Text.toLower_eq_iff (by decide)
  rw [Bool.eq_iff_iff]
  simp only [Bool.or_eq_true, beq_iff_eq, star, mark]

/-- Where letter case does not count, that of ASCII letters counts on neither side. -/
theorem acceptsAnyCase_congr {patternToo candidateToo : String}
    (alike : Text.AlikeInAscii pattern patternToo)
    (alikeToo : Text.AlikeInAscii candidate candidateToo) :
    acceptsAnyCase pattern candidate = acceptsAnyCase patternToo candidateToo := by
  have places : (ofString pattern).map (mapLetter Text.caseKey) =
      (ofString patternToo).map (mapLetter Text.caseKey) := by
    rw [ofString, ofString, List.map_map, List.map_map]
    exact alike.map_eq mapLetter_ofChar_toLower
  have classes : candidate.toList.map Text.caseKey = candidateToo.toList.map Text.caseKey :=
    alikeToo.map_eq Text.caseKey_toLower
  -- Both patterns take the same way, and nothing of the case is left on either.
  rw [acceptsAnyCase, acceptsAnyCase, hasWildcard_congr alike, matchesChars_sameLetter,
    matchesChars_sameLetter (ofString patternToo), places, classes, alike.lower_eq,
    alikeToo.lower_eq]

/-- Places of characters that are their own classes have the classes in their stead already. -/
theorem map_mapLetter_ofString {text : String} (own : ∀ c ∈ text.toList, Text.caseKey c = c) :
    (ofString text).map (mapLetter Text.caseKey) = ofString text := by
  rw [ofString, List.map_map]
  refine List.map_congr_left fun c inside => ?_
  rw [Function.comp_apply, ofChar]
  split
  · rfl
  · split
    · rfl
    · rw [mapLetter, own c inside]

/-- In ASCII, letter case does not count where lower cases are matched exactly. -/
theorem acceptsAnyCase_of_ascii (ascii : Text.IsAscii pattern)
    (asciiToo : Text.IsAscii candidate) :
    acceptsAnyCase pattern candidate = accepts (Text.lower pattern) (Text.lower candidate) := by
  have places := map_mapLetter_ofString fun c => Text.caseKey_of_mem_lower ascii (c := c)
  have classes : (Text.lower candidate).toList.map Text.caseKey = (Text.lower candidate).toList :=
    calc (Text.lower candidate).toList.map Text.caseKey
        = (Text.lower candidate).toList.map id :=
          List.map_congr_left fun _ inside => Text.caseKey_of_mem_lower asciiToo inside
      _ = (Text.lower candidate).toList := List.map_id _
  -- The lower cases are matched by the same two ways as the texts, which find nothing to change.
  rw [acceptsAnyCase_congr (Text.alikeInAscii_lower ascii) (Text.alikeInAscii_lower asciiToo),
    acceptsAnyCase, matchesChars_sameLetter, places, classes, Text.lower_lower, Text.lower_lower,
    accepts]

end AccessPolicy.Glob
