import AccessPolicy.Proofs.Text.LowerCase
import AccessPolicy.Text.CaseKey

/-!
Letter case of texts, seen character by character.

The case of ASCII letters shows neither in the lower case of a text nor in the classes of its
characters. Beyond ASCII the two can tell different texts apart: they agree on texts of characters
with a plain case, and every other character is part of two texts on which they do not.
-/

namespace AccessPolicy.Text

/-- Two texts differ in the case of ASCII letters alone. -/
def AlikeInAscii (first second : String) : Prop :=
  -- Taken one by one, characters beyond ASCII are left as they are.
  first.toList.map Char.toLower = second.toList.map Char.toLower

/-- Whether two texts differ in the case of ASCII letters alone can be computed. -/
instance (first second : String) : Decidable (AlikeInAscii first second) :=
  inferInstanceAs (Decidable (_ = _))

/-- All characters of a text are in ASCII. -/
def IsAscii (text : String) : Prop :=
  -- These are the first 128 code points.
  ∀ c ∈ text.toList, c.toNat < 128

/-- Whether all characters of a text are in ASCII can be computed. -/
instance (text : String) : Decidable (IsAscii text) :=
  -- The characters of the text are looked at, not all characters.
  List.decidableBAll (fun c : Char => c.toNat < 128) text.toList

theorem isAlpha_iff {c : Char} :
    c.isAlpha = true ↔ (65 ≤ c.toNat ∧ c.toNat ≤ 90) ∨ (97 ≤ c.toNat ∧ c.toNat ≤ 122) := by
  have bounds : c.isAlpha = (decide (c.val ≥ 'A'.val ∧ c.val ≤ 'Z'.val) ||
      (decide (c.val ≥ 'a'.val) && decide (c.val ≤ 'z'.val))) := rfl
  simp [bounds, UInt32.le_iff_toNat_le]

theorem isAlpha_toLower (c : Char) : c.toLower.isAlpha = c.isAlpha := by
  rw [Bool.eq_iff_iff, isAlpha_iff, isAlpha_iff]
  rcases toLower_cases c with same | ⟨bounds, moved⟩
  · rw [same]
  · omega

/-- Going to lower case leads to no other character than letters, and away from no other. -/
theorem toLower_eq_iff {d : Char} (caseless : d.isAlpha = false) {c : Char} :
    c.toLower = d ↔ c = d := by
  rcases toLower_cases c with same | ⟨bounds, -⟩
  · rw [same]
  · have letter : c.isAlpha = true := isAlpha_iff.mpr (.inl bounds)
    have letterToo : c.toLower.isAlpha = true := by rw [isAlpha_toLower, letter]
    constructor
    · rintro rfl
      exact absurd letterToo (Bool.eq_false_iff.mp caseless)
    · rintro rfl
      exact absurd letter (Bool.eq_false_iff.mp caseless)

theorem toLower_eq_capitalSigma_iff {c : Char} : c.toLower = capitalSigma ↔ c = capitalSigma :=
  toLower_eq_iff (by decide)

theorem lowerChar_toLower (c : Char) : lowerChar c.toLower = lowerChar c := by
  rcases toLower_cases c with same | ⟨bounds, moved⟩
  · rw [same]
  · rw [lowerChar, lowerChar, if_pos (by omega), if_pos (by omega), toLower_toLower]

theorem isCased_toLower (c : Char) : isCased c.toLower = isCased c := by
  rcases toLower_cases c with same | ⟨bounds, moved⟩
  · rw [same]
  · rw [isCased, isCased, if_pos (by omega), if_pos (by omega), isAlpha_toLower]

theorem isCaseIgnorable_toLower (c : Char) : isCaseIgnorable c.toLower = isCaseIgnorable c := by
  rcases toLower_cases c with same | ⟨bounds, moved⟩
  · rw [same]
  · -- Letters are seen, and those that are not letters stay what they are.
    rw [isCaseIgnorable, isCaseIgnorable, if_pos (by omega), if_pos (by omega), Bool.eq_iff_iff]
    simp only [List.contains_iff_mem, List.mem_cons, List.not_mem_nil, or_false]
    omega

/-- Word boundaries do not see the case of ASCII letters. -/
theorem startsCased_map_toLower (chars : List Char) :
    startsCased (chars.map Char.toLower) = startsCased chars := by
  have ignored : isCaseIgnorable ∘ Char.toLower = isCaseIgnorable :=
    funext isCaseIgnorable_toLower
  have cased : isCased ∘ Char.toLower = isCased := funext isCased_toLower
  rw [startsCased, List.dropWhile_map, List.head?_map, Option.map_map, ignored, cased, startsCased]

/-- Nothing is left of the case of ASCII letters in lower case, on whichever side they stand. -/
theorem lowerAfter_map_toLower (before chars : List Char) :
    lowerAfter (before.map Char.toLower) (chars.map Char.toLower) = lowerAfter before chars := by
  induction chars generalizing before with
  | nil => rfl
  | cons c rest ih =>
    have behind := ih (c :: before)
    rw [List.map_cons] at behind
    rw [List.map_cons, lowerAfter, behind, lowerAfter]
    simp only [toLower_eq_capitalSigma_iff, startsCased_map_toLower, lowerChar_toLower]

/-- The class of a character does not tell the case of ASCII letters. -/
theorem caseKey_toLower (c : Char) : caseKey c.toLower = caseKey c := by
  rcases toLower_cases c with same | ⟨bounds, -⟩
  · rw [same]
  · have small : c.toNat < 128 := by omega
    have low : lowerLetter c.toLower = lowerLetter c := by
      rw [lowerLetter, lowerChar_toLower, lowerLetter, lowerChar, if_pos small]
      rfl
    rw [caseKey, caseKey, low]

namespace AlikeInAscii

variable {first second : String} (alike : AlikeInAscii first second)
include alike

/-- What does not tell the case of ASCII letters is the same for all characters. -/
theorem map_eq {α : Type} {read : Char → α} (blind : ∀ c, read c.toLower = read c) :
    first.toList.map read = second.toList.map read := by
  have through : read ∘ Char.toLower = read := funext blind
  calc first.toList.map read
      = (first.toList.map Char.toLower).map read := by rw [List.map_map, through]
    _ = (second.toList.map Char.toLower).map read := by rw [alike]
    _ = second.toList.map read := by rw [List.map_map, through]

/-- A test that does not tell the case of ASCII letters is passed by both texts or by neither. -/
theorem any_eq {test : Char → Bool} (blind : ∀ c, test c.toLower = test c) :
    first.toList.any test = second.toList.any test := by
  rw [← Function.id_comp test, ← List.any_map, alike.map_eq blind, List.any_map]

/-- A character without a case stands in both texts or in neither. -/
theorem mem_iff {d : Char} (caseless : d.isAlpha = false) :
    d ∈ first.toList ↔ d ∈ second.toList := by
  have kept (text : String) : d ∈ text.toList.map Char.toLower ↔ d ∈ text.toList := by
    simp [toLower_eq_iff caseless]
  rw [← kept first, alike, kept second]

/-- Texts that differ in the case of ASCII letters have one lower case. -/
theorem lower_eq : lower first = lower second := by
  have same : lowerAfter [] first.toList = lowerAfter [] second.toList := by
    rw [← lowerAfter_map_toLower, ← lowerAfter_map_toLower [] second.toList, alike]
  rw [lower, lower, lowerChars, lowerChars, same]

end AlikeInAscii

/-- A character has one lower-case letter, which shares its capital with no lesser letter. -/
structure HasPlainCase (c : Char) : Prop where
  single : lowerChar c = [lowerLetter c]
  own : sharedCapitals.lookup (lowerLetter c).toNat = none

/-- Whether a character has a plain case can be computed. -/
instance (c : Char) : Decidable (HasPlainCase c) :=
  decidable_of_iff (lowerChar c = [lowerLetter c] ∧
    sharedCapitals.lookup (lowerLetter c).toNat = none)
    ⟨fun plain => ⟨plain.1, plain.2⟩, fun plain => ⟨plain.single, plain.own⟩⟩

/-- The lower-case letter of a plain character stands for its class. -/
theorem HasPlainCase.caseKey_eq {c : Char} (plain : HasPlainCase c) : caseKey c = lowerLetter c := by
  simp [caseKey, plain.own]

/-- The sigma shares its capital with the form that ends a word. -/
theorem HasPlainCase.ne_capitalSigma {c : Char} (plain : HasPlainCase c) : c ≠ capitalSigma := by
  rintro rfl
  exact absurd plain.own (by decide)

/-- The lower case of plain characters consists of the letters of their classes. -/
theorem lowerAfter_of_plain {before chars : List Char} (plain : ∀ c ∈ chars, HasPlainCase c) :
    lowerAfter before chars = chars.map caseKey := by
  induction chars generalizing before with
  | nil => rfl
  | cons c rest ih =>
    obtain ⟨here, others⟩ := List.forall_mem_cons.mp plain
    rw [lowerAfter, if_neg here.ne_capitalSigma, here.single, ih others, List.map_cons,
      here.caseKey_eq, List.singleton_append]

/-- Texts of plain characters have one lower case if their characters have the same classes. -/
theorem lower_eq_iff_of_plain {first second : String} (plain : ∀ c ∈ first.toList, HasPlainCase c)
    (plainToo : ∀ c ∈ second.toList, HasPlainCase c) :
    lower first = lower second ↔ first.toList.map caseKey = second.toList.map caseKey := by
  rw [lower, lower, String.ofList_inj, lowerChars, lowerChars, lowerAfter_of_plain plain,
    lowerAfter_of_plain plainToo]

/-- Characters of ASCII have a plain case, and their lower case as their class. -/
theorem plain_of_ascii {c : Char} (ascii : c.toNat < 128) :
    HasPlainCase c ∧ caseKey c = c.toLower := by
  have single : lowerChar c = [c.toLower] := if_pos ascii
  have letter : lowerLetter c = c.toLower := by rw [lowerLetter, single]; rfl
  have own : sharedCapitals.lookup (lowerLetter c).toNat = none := by
    -- Classes of more letters than the two cases begin beyond ASCII.
    have beyond : ∀ entry ∈ sharedCapitals, 128 ≤ entry.1 := by decide
    have low := toLower_ascii ascii
    rw [List.lookup_eq_none_iff, letter]
    intro entry listed
    have apart : c.toLower.toNat ≠ entry.1 := by
      have := beyond entry listed
      omega
    simpa using apart
  have plain : HasPlainCase c := ⟨by rw [single, letter], own⟩
  exact ⟨plain, by rw [plain.caseKey_eq, letter]⟩

/-- All characters of a text in ASCII have a plain case. -/
theorem IsAscii.plain {text : String} (ascii : IsAscii text) :
    ∀ c ∈ text.toList, HasPlainCase c :=
  fun c inside => (plain_of_ascii (ascii c inside)).1

/-- A text in ASCII goes to lower case one character at a time. -/
theorem toList_lower_of_ascii {text : String} (ascii : IsAscii text) :
    (lower text).toList = text.toList.map Char.toLower := by
  rw [lower, String.toList_ofList, lowerChars, lowerAfter_of_plain ascii.plain]
  exact List.map_congr_left fun c inside => (plain_of_ascii (ascii c inside)).2

/-- A text in ASCII differs from its lower case in nothing but the case of its letters. -/
theorem alikeInAscii_lower {text : String} (ascii : IsAscii text) :
    AlikeInAscii text (lower text) := by
  rw [AlikeInAscii, toList_lower_of_ascii ascii, List.map_map]
  exact List.map_congr_left fun c _ => (toLower_toLower c).symm

/-- The lower case of a text in ASCII consists of characters that are their own classes. -/
theorem caseKey_of_mem_lower {text : String} (ascii : IsAscii text) {c : Char}
    (inside : c ∈ (lower text).toList) : caseKey c = c := by
  rw [toList_lower_of_ascii ascii] at inside
  obtain ⟨d, there, rfl⟩ := List.mem_map.mp inside
  rw [caseKey_toLower, (plain_of_ascii (ascii d there)).2]

/-- What is listed as the least letter of a class is one, and its own lower case. -/
theorem least_of_sharedCapitals {code least : Nat}
    (listed : sharedCapitals.lookup code = some least) :
    lowerChars [Char.ofNat least] = [Char.ofNat least] ∧
      caseKey (Char.ofNat least) = Char.ofNat least ∧ (Char.ofNat least).toNat ≠ code := by
  have all : ∀ entry ∈ sharedCapitals, lowerChars [Char.ofNat entry.2] = [Char.ofNat entry.2] ∧
      caseKey (Char.ofNat entry.2) = Char.ofNat entry.2 ∧
        (Char.ofNat entry.2).toNat ≠ entry.1 := by decide
  obtain ⟨before, behind, split, -⟩ := List.lookup_eq_some_iff.mp listed
  have inside : (code, least) ∈ sharedCapitals := by simp [split]
  exact all _ inside

/-- A character without a plain case has the lower case of another text, or else its classes. -/
theorem exists_parted_of_not_plain {c : Char} (odd : ¬ HasPlainCase c) :
    ∃ other, ¬ (lowerChars [c] = lowerChars other ↔ [c].map caseKey = other.map caseKey) := by
  by_cases dotted : c.toNat = 0x130
  · -- The dotted capital I is as long as its class, but not as long as its lower case.
    have same : c = Char.ofNat 0x130 := by rw [← dotted, Char.ofNat_toNat]
    subst same
    exact ⟨['i', Char.ofNat 0x307], by decide⟩
  · have single : lowerChar c = [lowerLetter c] := by
      unfold lowerLetter lowerChar
      split <;> rfl
    have alone : lowerChars [c] = [lowerLetter c] := by
      by_cases sigma : c = capitalSigma
      · -- A sigma on its own ends no word.
        subst sigma
        decide
      · rw [lowerChars, lowerAfter, if_neg sigma, single]
        rfl
    have shared : sharedCapitals.lookup (lowerLetter c).toNat ≠ none := fun own => odd ⟨single, own⟩
    obtain ⟨least, listed⟩ := Option.ne_none_iff_exists'.mp shared
    obtain ⟨itself, own, apart⟩ := least_of_sharedCapitals listed
    refine ⟨[Char.ofNat least], fun agree => apart ?_⟩
    have key : caseKey c = Char.ofNat least := by simp [caseKey, listed]
    have low : [lowerLetter c] = [Char.ofNat least] := by
      rw [← alone, ← itself]
      exact agree.mpr (by simp [key, own])
    rw [← List.singleton_inj.mp low]

end AccessPolicy.Text
