import AccessPolicy.Glob
import AccessPolicy.Proofs.Paired

/-!
What wildcard patterns match: the texts that replacing their wildcards leads to.

The matcher keeps a row of answers, one for each beginning of the text. A step lemma says what one
more place of the pattern does to the row, and the run over all places follows by induction.
-/

namespace AccessPolicy.Glob

variable {same : Same} {chars : List Char}

/-- The texts that a place of a pattern can stand for. -/
def Stands (same : Same) : Glob → List Char → Prop
  -- Line breaks are characters like any other.
  | .literal c, text => ∃ d, same c d = true ∧ text = [d]
  | .one, text => ∃ d, text = [d]
  | .many, _ => True

/-- A text is what places lead to when each of them is replaced by a text that it stands for. -/
def Yields (same : Same) (places : List Glob) (chars : List Char) : Prop :=
  ∃ pieces, List.Forall₂ (Stands same) places pieces ∧ pieces.flatten = chars

/-- Without places only the empty text is left. -/
theorem yields_nil_iff : Yields same [] chars ↔ chars = [] := by
  constructor
  · rintro ⟨_, replaced, joined⟩
    cases replaced
    exact joined.symm
  · rintro rfl
    exact ⟨[], .nil, rfl⟩

/-- A single place leads to the texts that it stands for. -/
theorem yields_singleton_iff {place : Glob} :
    Yields same [place] chars ↔ Stands same place chars := by
  constructor
  · rintro ⟨pieces, replaced, rfl⟩
    obtain ⟨piece, _, stands, rest, rfl⟩ := List.forall₂_cons_left_iff.mp replaced
    cases rest
    simpa using stands
  · intro stands
    exact ⟨[chars], .cons stands .nil, by simp⟩

/-- Places in a row lead to texts in a row. -/
theorem yields_append_iff {first second : List Glob} :
    Yields same (first ++ second) chars ↔
      ∃ before behind, chars = before ++ behind ∧ Yields same first before ∧
        Yields same second behind := by
  constructor
  · rintro ⟨pieces, replaced, joined⟩
    -- The pieces are cut where the places are.
    obtain ⟨earlier, later, rfl, left, right⟩ := forall₂_append_left_iff.mp replaced
    rw [List.flatten_append] at joined
    exact ⟨earlier.flatten, later.flatten, joined.symm, ⟨earlier, left, rfl⟩, ⟨later, right, rfl⟩⟩
  · rintro ⟨before, behind, split, ⟨earlier, left, rfl⟩, ⟨later, right, rfl⟩⟩
    refine ⟨earlier ++ later, List.rel_append left right, ?_⟩
    rw [List.flatten_append, split]

/-- Each entry of a row tells whether so many first characters are a text that places lead to. -/
structure Describes (same : Same) (chars : List Char) (places : List Glob) (row : List Bool) :
    Prop where
  /-- There is one entry more than there are characters. -/
  length : row.length = chars.length + 1
  entry : ∀ count, count ≤ chars.length →
    (row[count]? = some true ↔ Yields same places (chars.take count))

/-- The row before the first place is true of the empty beginning alone. -/
theorem describes_start : Describes same chars [] (true :: chars.map fun _ => false) where
  length := by simp
  entry := by
    intro count within
    rw [yields_nil_iff, List.take_eq_nil_iff]
    cases count with
    | zero => simp
    | succ count =>
      have filled : chars ≠ [] := by
        rintro rfl
        simp at within
      simp [filled, List.getElem?_replicate]

/-- A place that stands for some single characters moves the row one entry on. -/
theorem Describes.single {places : List Glob} {row : List Bool} {place : Glob}
    (describes : Describes same chars places row) {test : Char → Bool}
    (stands : ∀ text, Stands same place text ↔ ∃ d, test d = true ∧ text = [d]) :
    Describes same chars (places ++ [place])
      (false :: List.zipWith (fun entry d => entry && test d) row chars) where
  length := by simp [describes.length]
  entry := by
    intro count within
    simp only [yields_append_iff, yields_singleton_iff, stands]
    cases count with
    | zero => simp
    | succ count =>
      have inside : count < chars.length := within
      have earlier := describes.entry count (Nat.le_of_lt inside)
      have here : chars[count]? = some chars[count] := List.getElem?_eq_getElem inside
      have filled : count < row.length := by
        rw [describes.length]
        exact Nat.lt_succ_of_lt inside
      have entry : row[count]? = some row[count] := List.getElem?_eq_getElem filled
      rw [List.getElem?_cons_succ, List.getElem?_zipWith, here, entry]
      rw [entry] at earlier
      simp only [Option.some.injEq, Bool.and_eq_true] at earlier ⊢
      rw [earlier, ← List.take_append_getElem inside]
      constructor
      · rintro ⟨yields, fits⟩
        exact ⟨_, _, rfl, yields, _, fits, rfl⟩
      · -- The place takes the last character, so the split is the one behind the others.
        rintro ⟨before, behind, split, yields, d, fits, rfl⟩
        obtain ⟨same, last⟩ := List.append_inj' split rfl
        rw [same, List.singleton_inj.mp last]
        exact ⟨yields, fits⟩

/-- Spreading keeps the number of entries. -/
theorem length_spread (seen : Bool) (row : List Bool) : (spread seen row).length = row.length := by
  induction row generalizing seen with
  | nil => rfl
  | cons entry later ih => simp [spread, ih]

/-- A spread entry is true from the first true entry on. -/
theorem getElem?_spread_iff {seen : Bool} {row : List Bool} {index : Nat} :
    (spread seen row)[index]? = some true ↔
      index < row.length ∧ (seen = true ∨ ∃ earlier ≤ index, row[earlier]? = some true) := by
  induction row generalizing seen index with
  | nil => simp [spread]
  | cons entry later ih =>
    cases index with
    | zero => simp [spread]
    | succ index =>
      rw [spread, List.getElem?_cons_succ, ih, List.length_cons, Nat.succ_lt_succ_iff]
      refine and_congr_right fun _ => ?_
      rw [Bool.or_eq_true, or_assoc]
      refine or_congr_right ?_
      -- An earlier true entry is the head, or one of those behind it.
      constructor
      · rintro (head | ⟨earlier, before, true⟩)
        · exact ⟨0, Nat.zero_le _, by simp [head]⟩
        · exact ⟨earlier + 1, Nat.succ_le_succ before, by simpa using true⟩
      · rintro ⟨earlier, before, true⟩
        cases earlier with
        | zero => exact Or.inl (by simpa using true)
        | succ earlier =>
          exact Or.inr ⟨earlier, Nat.le_of_succ_le_succ before, by simpa using true⟩

/-- A place that stands for any text carries every match to all later entries. -/
theorem Describes.many {places : List Glob} {row : List Bool}
    (describes : Describes same chars places row) :
    Describes same chars (places ++ [.many]) (spread false row) where
  length := by rw [length_spread, describes.length]
  entry := by
    intro count within
    have inside : count < row.length := by
      rw [describes.length]
      exact Nat.lt_succ_of_le within
    simp only [getElem?_spread_iff, inside, true_and, Bool.false_eq_true, false_or]
    simp only [yields_append_iff, yields_singleton_iff, Stands, and_true]
    constructor
    · rintro ⟨earlier, before, true⟩
      have yields := (describes.entry earlier (Nat.le_trans before within)).mp true
      refine ⟨chars.take earlier, (chars.take count).drop earlier, ?_, yields⟩
      calc chars.take count
          = (chars.take count).take earlier ++ (chars.take count).drop earlier :=
            (List.take_append_drop _ _).symm
        _ = chars.take earlier ++ (chars.take count).drop earlier := by
            rw [List.take_take, Nat.min_eq_left before]
    · rintro ⟨before, behind, split, yields⟩
      have short : before.length ≤ count := by
        have := congrArg List.length split
        simp only [List.length_take, List.length_append] at this
        omega
      have start : before = chars.take before.length := by
        have := congrArg (List.take before.length) split
        rw [List.take_take, Nat.min_eq_left short, List.take_left] at this
        exact this.symm
      refine ⟨before.length, short, ?_⟩
      rw [describes.entry _ (Nat.le_trans short within), ← start]
      exact yields

/-- One more place of the pattern keeps the row in step with what the places lead to. -/
theorem Describes.advance {places : List Glob} {row : List Bool}
    (describes : Describes same chars places row) (place : Glob) :
    Describes same chars (places ++ [place]) (advance same chars row place) := by
  cases place with
  | literal c => exact describes.single fun _ => Iff.rfl
  | one =>
    have moved : Describes same chars (places ++ [.one])
        (false :: List.zipWith (fun entry _ => entry && true) row chars) :=
      describes.single (by simp [Stands])
    simpa [Glob.advance] using moved
  | many => exact describes.many

/-- The row behind all places tells which beginnings are texts that all of them lead to. -/
theorem Describes.foldl {places : List Glob} {row : List Bool}
    (describes : Describes same chars places row) (later : List Glob) :
    Describes same chars (places ++ later) (later.foldl (Glob.advance same chars) row) := by
  induction later generalizing places row with
  | nil => simpa using describes
  | cons place later ih => simpa using ih (describes.advance place)

/-- Places match the texts that they lead to, and no other. -/
theorem matchesChars_iff {places : List Glob} :
    matchesChars same places chars = true ↔ Yields same places chars := by
  have start : Describes same chars [] (true :: chars.map fun _ => false) := describes_start
  have describes := start.foldl places
  have whole := describes.entry chars.length (Nat.le_refl _)
  have last : chars.length = (places.foldl (Glob.advance same chars)
      (true :: chars.map fun _ => false)).length - 1 := by
    rw [describes.length]
    rfl
  rw [List.take_length, List.nil_append] at whole
  rw [← whole, matchesChars, List.getLast?_eq_getElem?, ← last]
  cases (places.foldl (Glob.advance same chars) (true :: chars.map fun _ => false))[chars.length]?
  <;> simp

/-- The texts that a character of a written pattern can be replaced by. -/
def Replaces (c : Char) (text : List Char) : Prop :=
  -- Brackets, backslashes and all other marks stand for themselves.
  if c = '*' then True else if c = '?' then ∃ d, text = [d] else text = [c]

/-- A text can be obtained from a written pattern by replacing each of its characters. -/
def Produces (pattern candidate : List Char) : Prop :=
  ∃ pieces, List.Forall₂ Replaces pattern pieces ∧ pieces.flatten = candidate

/-- A character is replaced by what its place stands for where letter case counts. -/
theorem stands_ofChar_iff {c : Char} {text : List Char} :
    Stands sameExactly (ofChar c) text ↔ Replaces c text := by
  unfold ofChar Replaces
  split
  · rfl
  · split
    · rfl
    · simp [Stands, sameExactly]

/-- The places of a written pattern lead to the texts that replacing its characters produces. -/
theorem yields_ofString_iff {pattern : String} :
    Yields sameExactly (ofString pattern) chars ↔ Produces pattern.toList chars := by
  unfold Yields Produces ofString
  simp only [List.forall₂_map_left_iff, stands_ofChar_iff]

/-- Characters that stand for themselves produce themselves alone. -/
theorem produces_iff_of_plain {pattern : List Char} (plain : ∀ c ∈ pattern, c ≠ '*' ∧ c ≠ '?') :
    Produces pattern chars ↔ pattern = chars := by
  have replaces : ∀ pieces, List.Forall₂ Replaces pattern pieces ↔
      pieces = pattern.map fun c => [c] := by
    induction pattern with
    | nil => simp
    | cons c later ih =>
      obtain ⟨⟨star, mark⟩, others⟩ := List.forall_mem_cons.mp plain
      intro pieces
      rw [List.forall₂_cons_left_iff, List.map_cons]
      simp [Replaces, star, mark, ih others]
  have joined : (pattern.map fun c => [c]).flatten = pattern := by
    rw [← List.flatMap_def, List.flatMap_singleton']
  simp [Produces, replaces, joined]

/-- A pattern without a wildcard has none of the two special characters in it. -/
theorem plain_of_not_hasWildcard {pattern : String} (plain : ¬ hasWildcard pattern = true) :
    ∀ c ∈ pattern.toList, c ≠ '*' ∧ c ≠ '?' := by
  intro c inside
  constructor
  all_goals
    rintro rfl
    exact plain (List.any_eq_true.mpr ⟨_, inside, rfl⟩)

/-- Both ways to match a pattern find the texts that replacing its characters produces. -/
theorem accepts_iff_produces {pattern candidate : String} :
    accepts pattern candidate = true ↔ Produces pattern.toList candidate.toList := by
  unfold accepts
  split
  · rw [matchesChars_iff, yields_ofString_iff]
  · rename_i plain
    rw [produces_iff_of_plain (plain_of_not_hasWildcard plain), String.toList_inj, beq_iff_eq]

/-- Every character can be replaced by itself. -/
theorem produces_self (pattern : List Char) : Produces pattern pattern := by
  refine ⟨pattern.map fun c => [c], ?_, by rw [← List.flatMap_def, List.flatMap_singleton']⟩
  rw [List.forall₂_map_right_iff, List.forall₂_same]
  intro c _
  unfold Replaces
  split
  · trivial
  · split
    · exact ⟨c, rfl⟩
    · rfl

/-- Every pattern matches its own text. -/
theorem accepts_self (pattern : String) : accepts pattern pattern = true :=
  accepts_iff_produces.mpr (produces_self _)

/-- Patterns in a row produce texts in a row. -/
theorem produces_append {first second earlier later : List Char} (left : Produces first earlier)
    (right : Produces second later) : Produces (first ++ second) (earlier ++ later) := by
  obtain ⟨pieces, replaced, rfl⟩ := left
  obtain ⟨others, replacedToo, rfl⟩ := right
  exact ⟨pieces ++ others, List.rel_append replaced replacedToo, List.flatten_append⟩

/-- What patterns in a row produce is cut into what the first and what the second produces. -/
theorem exists_of_produces_append {first second : List Char}
    (produces : Produces (first ++ second) chars) :
    ∃ before behind, chars = before ++ behind ∧ Produces first before ∧
      Produces second behind := by
  obtain ⟨pieces, replaced, rfl⟩ := produces
  obtain ⟨earlier, later, rfl, left, right⟩ := forall₂_append_left_iff.mp replaced
  exact ⟨earlier.flatten, later.flatten, List.flatten_append, ⟨earlier, left, rfl⟩,
    ⟨later, right, rfl⟩⟩

/--
A pattern matches the texts that are obtained by replacing its wildcards, and no other.

A star is replaced by any text and a question mark by any one character, while every other
character stands for itself. So every pattern matches itself, and what two patterns match is
matched, one behind the other, by both in a row.
-/
theorem accepts_characterized :
    (∀ pattern candidate : String,
      accepts pattern candidate = true ↔ Produces pattern.toList candidate.toList) ∧
    (∀ pattern : String, accepts pattern pattern = true) ∧
    ∀ first second earlier later : String, accepts first earlier = true →
      accepts second later = true → accepts (first ++ second) (earlier ++ later) = true := by
  refine ⟨fun pattern candidate => accepts_iff_produces, fun pattern => ?_, ?_⟩
  · exact accepts_iff_produces.mpr (produces_self _)
  · intro first second earlier later left right
    rw [accepts_iff_produces] at left right ⊢
    rw [String.toList_append, String.toList_append]
    exact produces_append left right

/-- A question mark next to stars takes a line break, and brackets are no class of characters. -/
theorem accepts_bracketed :
    accepts "[a]*?*" "[a]\n" = true ∧ accepts "[a]*?*" "a\n" = false ∧
      accepts ("[a]*?*" ++ "\\.") ("[a]\n" ++ "\\.") = true := by
  have matched : accepts "[a]*?*" "[a]\n" = true := by decide +kernel
  have escaped : accepts "\\." "\\." = true := accepts_characterized.2.1 _
  exact ⟨matched, by decide +kernel, accepts_characterized.2.2 _ _ _ _ matched escaped⟩

end AccessPolicy.Glob
