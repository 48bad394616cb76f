import AccessPolicy.Number.Decimal

/-!
How decimal numbers are written: sign, digits with a point, exponent.

The main statement is that a text is read as a number exactly where it spells that number, with
exponents within the range of decimal arithmetic.
-/

namespace AccessPolicy.Number.Decimal

/-- Characters are digits, of whatever script, with these values. -/
def SpellsDigits (chars : List Char) (ds : List Nat) : Prop :=
  -- One digit has one character.
  chars.map Text.decimalDigit? = ds.map some

/-- Characters are a sign, which may be missing: whether it is a minus sign. -/
inductive SpellsSign : List Char → Bool → Prop where
  | absent : SpellsSign [] false
  | plus : SpellsSign ['+'] false
  | minus : SpellsSign ['-'] true

/-- Characters are digits, perhaps with a point: the digits, and how many stand behind the point. -/
inductive SpellsCoefficient : List Char → List Nat → Nat → Prop where
  | whole {chars : List Char} {ds : List Nat} (spelled : SpellsDigits chars ds)
      (filled : ds ≠ []) : SpellsCoefficient chars ds 0
  | pointed {before behind : List Char} {ds fraction : List Nat} (spelled : SpellsDigits before ds)
      (spelledToo : SpellsDigits behind fraction) (filled : ds ++ fraction ≠ []) :
      SpellsCoefficient (before ++ '.' :: behind) (ds ++ fraction) fraction.length

/-- Characters are an exponent, which is zero where it is missing. -/
inductive SpellsExponent : List Char → Int → Prop where
  | absent : SpellsExponent [] 0
  | present {mark : Char} {sign chars : List Char} {negative : Bool} {ds : List Nat}
      (marked : mark = 'e' ∨ mark = 'E') (signed : SpellsSign sign negative)
      (spelled : SpellsDigits chars ds) (filled : ds ≠ []) :
      SpellsExponent (mark :: (sign ++ chars))
        (if negative then -(ofDigits ds : Int) else ofDigits ds)

/-- Characters are a decimal number, in which digits behind the point lower the exponent. -/
inductive Spells : List Char → Decimal → Prop where
  | parts {sign digits exponent : List Char} {negative : Bool} {ds : List Nat} {places : Nat}
      {power : Int} (signed : SpellsSign sign negative)
      (coefficient : SpellsCoefficient digits ds places)
      (raised : SpellsExponent exponent power) :
      Spells (sign ++ (digits ++ exponent)) ⟨negative, ofDigits ds, power - places⟩

/-- A text does not go on with a digit. -/
def StopsDigits (rest : List Char) : Prop :=
  -- The end of the text is no digit either.
  ∀ c ∈ rest.head?, Text.decimalDigit? c = none

variable {chars rest : List Char} {ds : List Nat}

/-- The digits taken from a text are spelled at its start. -/
theorem takeDigits_spells (taken : takeDigits chars = (ds, rest)) :
    ∃ front, chars = front ++ rest ∧ SpellsDigits front ds := by
  induction chars generalizing ds with
  | nil =>
    obtain ⟨rfl, rfl⟩ := Prod.mk.inj taken
    exact ⟨[], rfl, rfl⟩
  | cons c later ih =>
    rw [takeDigits] at taken
    cases digit : Text.decimalDigit? c with
    | none =>
      rw [digit] at taken
      obtain ⟨rfl, rfl⟩ := Prod.mk.inj taken
      exact ⟨[], rfl, rfl⟩
    | some value =>
      rw [digit] at taken
      obtain ⟨rfl, behind⟩ := Prod.mk.inj taken
      obtain ⟨front, split, spelled⟩ := ih (Prod.ext rfl behind)
      refine ⟨c :: front, by rw [List.cons_append, ← split], ?_⟩
      rw [SpellsDigits, List.map_cons, List.map_cons, digit, spelled]

/-- Digits are taken as far as they go. -/
theorem takeDigits_append (spelled : SpellsDigits chars ds) (stops : StopsDigits rest) :
    takeDigits (chars ++ rest) = (ds, rest) := by
  induction chars generalizing ds with
  | nil =>
    obtain rfl : ds = [] := by simpa [SpellsDigits] using spelled
    cases rest with
    | nil => rfl
    | cons c later => rw [List.nil_append, takeDigits, stops c rfl]
  | cons c chars ih =>
    cases ds with
    | nil => simp [SpellsDigits] at spelled
    | cons value ds =>
      simp only [SpellsDigits, List.map_cons, List.cons.injEq] at spelled
      rw [List.cons_append, takeDigits, spelled.1, ih spelled.2]

/-- The character of a digit spells it. -/
theorem decimalDigit?_digitChar {digit : Nat} (small : digit < 10) :
    Text.decimalDigit? (digitChar digit) = some digit := by
  have all : ∀ digit < 10, Text.decimalDigit? (digitChar digit) = some digit := by decide
  exact all digit small

/-- The characters of digits spell them. -/
theorem spellsDigits_map_digitChar (small : ∀ digit ∈ ds, digit < 10) :
    SpellsDigits (ds.map digitChar) ds := by
  rw [SpellsDigits, List.map_map]
  exact List.map_congr_left fun digit member => decimalDigit?_digitChar (small digit member)

/-- The sign taken from a text is spelled at its start. -/
theorem takeSign_spells {negative : Bool} (taken : takeSign chars = (negative, rest)) :
    ∃ sign, chars = sign ++ rest ∧ SpellsSign sign negative := by
  unfold takeSign at taken
  split at taken <;> obtain ⟨rfl, rfl⟩ := Prod.mk.inj taken
  · exact ⟨['-'], rfl, .minus⟩
  · exact ⟨['+'], rfl, .plus⟩
  · exact ⟨[], rfl, .absent⟩

/-- A sign is taken from a text that does not go on with another one. -/
theorem takeSign_append {sign : List Char} {negative : Bool} (signed : SpellsSign sign negative)
    (plain : rest.head? ≠ some '-' ∧ rest.head? ≠ some '+') :
    takeSign (sign ++ rest) = (negative, rest) := by
  cases signed with
  | plus => rfl
  | minus => rfl
  | absent =>
    rw [List.nil_append]
    unfold takeSign
    split
    · simp at plain
    · simp at plain
    · rfl

/-- At least one digit is a first digit. -/
theorem SpellsDigits.exists_cons (spelled : SpellsDigits chars ds) (filled : ds ≠ []) :
    ∃ c later, chars = c :: later ∧ Text.decimalDigit? c ≠ none := by
  obtain ⟨value, values, rfl⟩ := List.exists_cons_of_ne_nil filled
  cases chars with
  | nil => simp [SpellsDigits] at spelled
  | cons c later =>
    simp only [SpellsDigits, List.map_cons, List.cons.injEq] at spelled
    exact ⟨c, later, rfl, by simp [spelled.1]⟩

/-- What starts with a digit starts with no sign. -/
theorem SpellsDigits.unsigned (spelled : SpellsDigits chars ds) (filled : ds ≠ []) :
    (chars ++ rest).head? ≠ some '-' ∧ (chars ++ rest).head? ≠ some '+' := by
  obtain ⟨c, later, rfl, digit⟩ := spelled.exists_cons filled
  constructor <;> rintro same <;> obtain rfl := Option.some.inj same <;> exact digit (by decide)

/-- What starts with a coefficient starts with no sign. -/
theorem SpellsCoefficient.unsigned {digits : List Char} {places : Nat}
    (coefficient : SpellsCoefficient digits ds places) :
    (digits ++ rest).head? ≠ some '-' ∧ (digits ++ rest).head? ≠ some '+' := by
  cases coefficient with
  | whole spelled filled => exact spelled.unsigned filled
  | @pointed before _ ds _ spelled _ _ =>
    rw [List.append_assoc]
    by_cases filled : ds = []
    · -- The point comes first.
      obtain rfl : before = [] := by simpa [SpellsDigits, filled] using spelled
      simp
    · exact spelled.unsigned filled

/-- An exponent starts with neither a digit nor a point. -/
theorem SpellsExponent.stops {power : Int} (raised : SpellsExponent chars power) :
    StopsDigits chars ∧ chars.head? ≠ some '.' := by
  cases raised with
  | absent => simp [StopsDigits]
  | present marked _ _ _ => rcases marked with rfl | rfl <;> simp [StopsDigits] <;> decide

/-- Exponents are read exactly where they are spelled. -/
theorem readExponent?_eq_some_iff {power : Int} :
    readExponent? chars = some power ↔ SpellsExponent chars power := by
  constructor
  · intro read
    cases chars with
    | nil =>
      obtain rfl : 0 = power := Option.some.inj read
      exact .absent
    | cons mark rest =>
      rw [readExponent?] at read
      split at read
      · rename_i marked
        rcases signs : takeSign rest with ⟨negative, unsigned⟩
        obtain ⟨sign, rfl, signed⟩ := takeSign_spells signs
        rw [signs] at read
        split at read
        · cases read
        · rename_i ds filled taken
          obtain ⟨front, rfl, spelled⟩ := takeDigits_spells taken
          obtain rfl := Option.some.inj read
          rw [List.append_nil]
          exact .present marked signed spelled filled
        · cases read
      · cases read
  · intro raised
    cases raised with
    | absent => rfl
    | @present mark sign chars negative ds marked signed spelled filled =>
      have stops : StopsDigits [] := by simp [StopsDigits]
      have unsigned : (chars ++ []).head? ≠ some '-' ∧ (chars ++ []).head? ≠ some '+' :=
        spelled.unsigned filled
      have taken := takeDigits_append spelled stops
      rw [List.append_nil] at unsigned taken
      rw [readExponent?, if_pos marked, takeSign_append signed unsigned, taken]
      obtain ⟨value, values, rfl⟩ := List.exists_cons_of_ne_nil filled
      rfl

/-- A coefficient that is read is spelled at the start of the text. -/
theorem readCoefficient?_spells {places : Nat}
    (read : readCoefficient? chars = some (ds, places, rest)) :
    ∃ digits, chars = digits ++ rest ∧ SpellsCoefficient digits ds places := by
  unfold readCoefficient? at read
  split at read
  · rename_i whole later taken
    obtain ⟨before, rfl, spelled⟩ := takeDigits_spells taken
    rcases takenToo : takeDigits later with ⟨fraction, behind⟩
    obtain ⟨digits, rfl, spelledToo⟩ := takeDigits_spells takenToo
    simp only [takenToo, Option.ite_none_left_eq_some, Option.some.injEq, Prod.mk.injEq,
      Bool.and_eq_true, List.isEmpty_iff] at read
    obtain ⟨filled, rfl, rfl, rfl⟩ := read
    refine ⟨before ++ '.' :: digits, by simp, .pointed spelled spelledToo ?_⟩
    simpa using filled
  · rename_i whole later _ taken
    obtain ⟨digits, rfl, spelled⟩ := takeDigits_spells taken
    simp only [Option.ite_none_left_eq_some, Option.some.injEq, Prod.mk.injEq,
      List.isEmpty_iff] at read
    obtain ⟨filled, rfl, rfl, rfl⟩ := read
    exact ⟨digits, rfl, .whole spelled filled⟩

/-- A coefficient is read in front of a text that goes on with neither a digit nor a point. -/
theorem SpellsCoefficient.read {digits : List Char} {places : Nat}
    (coefficient : SpellsCoefficient digits ds places) (stops : StopsDigits rest)
    (pointless : rest.head? ≠ some '.') :
    readCoefficient? (digits ++ rest) = some (ds, places, rest) := by
  cases coefficient with
  | whole spelled filled =>
    rw [readCoefficient?, takeDigits_append spelled stops]
    split
    · rename_i same
      obtain ⟨-, rfl⟩ := Prod.mk.inj same
      simp at pointless
    · rename_i same
      obtain ⟨rfl, rfl⟩ := Prod.mk.inj same
      simp [filled]
  | @pointed before behind ds fraction spelled spelledToo filled =>
    have point : StopsDigits ('.' :: (behind ++ rest)) := by simp [StopsDigits]; decide
    rw [readCoefficient?, List.append_assoc, List.cons_append, takeDigits_append spelled point]
    simp only [takeDigits_append spelledToo stops]
    simpa using filled

/-- A text is read as a number exactly where it spells a number within the range of exponents. -/
theorem readPlain?_eq_some_iff {number : Decimal} :
    readPlain? chars = some number ↔ Spells chars number ∧ number.inRange = true := by
  constructor
  · intro read
    unfold readPlain? at read
    rcases signs : takeSign chars with ⟨negative, unsigned⟩
    obtain ⟨sign, rfl, signed⟩ := takeSign_spells signs
    simp only [signs] at read
    split at read
    · cases read
    · rename_i ds places rest coefficient
      obtain ⟨digits, rfl, spelled⟩ := readCoefficient?_spells coefficient
      split at read
      · cases read
      · rename_i power raised
        simp only [Option.ite_none_right_eq_some, Option.some.injEq] at read
        obtain ⟨inRange, rfl⟩ := read
        exact ⟨.parts signed spelled (readExponent?_eq_some_iff.mp raised), inRange⟩
  · rintro ⟨spelled, inRange⟩
    cases spelled with
    | parts signed coefficient raised =>
      have read := coefficient.read raised.stops.1 raised.stops.2
      rw [readPlain?, takeSign_append signed coefficient.unsigned]
      simp only [read, readExponent?_eq_some_iff.mpr raised, inRange, if_true]

/-- A text with blanks around it is read as the number that it spells. -/
theorem read?_eq_some_iff {text : String} {number : Decimal} :
    read? text = some number ↔
      Spells (Text.trim text.toList) number ∧ number.inRange = true :=
  readPlain?_eq_some_iff

end AccessPolicy.Number.Decimal
