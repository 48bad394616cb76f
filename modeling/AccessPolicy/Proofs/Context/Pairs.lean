import AccessPolicy.Proofs.Context.Sources
import AccessPolicy.Proofs.FirstWithout
import AccessPolicy.Proofs.Text.Blank
import AccessPolicy.Proofs.Text.Cut

/-!
Contexts of pairs: which texts are pairs, and what these give.

Every pair gives an entry of one value. The first text that is no pair is the one that is reported.
-/

namespace AccessPolicy.Context

/-- A text is a pair: a key that is not blank, then an equals sign, then a value. -/
def IsPair (pair : String) : Prop :=
  -- The key ends at the first equals sign.
  ∃ key value : List Char, pair.toList = key ++ '=' :: value ∧ '=' ∉ key ∧
    ∃ c ∈ key, Text.isBlank c = false

/-- A pair has the key before its first equals sign, without blanks around it, and the rest. -/
theorem splitPair?_eq_some_iff {pair name value : String} :
    splitPair? pair = some (name, value) ↔ ∃ before behind : List Char,
      pair.toList = before ++ '=' :: behind ∧ '=' ∉ before ∧ Text.trim before ≠ [] ∧
        name = String.ofList (Text.trim before) ∧ value = String.ofList behind := by
  unfold splitPair?
  split
  · rename_i before uncut
    refine iff_of_false (by simp) ?_
    intro ⟨key, behind, split, bare, _⟩
    rw [Text.cut_eq_some_iff.mpr ⟨split, bare⟩] at uncut
    cases uncut
  · rename_i before behind cut
    constructor
    · intro kept
      obtain ⟨split, bare⟩ := Text.cut_eq_some_iff.mp cut
      by_cases blank : Text.trim before = []
      · simp [blank] at kept
      · simp only [List.isEmpty_iff, blank, if_false, Option.some.injEq, Prod.mk.injEq] at kept
        exact ⟨before, behind, split, bare, blank, kept.1.symm, kept.2.symm⟩
    · intro ⟨key, rest, split, bare, filled, named, valued⟩
      rw [Text.cut_eq_some_iff.mpr ⟨split, bare⟩] at cut
      cases cut
      simp [filled, named, valued]

/-- A text has a name and a value exactly where it is a pair. -/
theorem splitPair?_isSome_iff {pair : String} : (splitPair? pair).isSome = true ↔ IsPair pair := by
  rw [Option.isSome_iff_exists]
  constructor
  · intro ⟨parts, found⟩
    obtain ⟨before, behind, split, bare, filled, -⟩ := splitPair?_eq_some_iff.mp found
    refine ⟨before, behind, split, bare, ?_⟩
    simpa [Text.trim_eq_nil_iff] using filled
  · intro ⟨key, value, split, bare, filled⟩
    refine ⟨(_, _), splitPair?_eq_some_iff.mpr ⟨key, value, split, bare, ?_, rfl, rfl⟩⟩
    simpa [Text.trim_eq_nil_iff] using filled

/-- A text is no pair if it has no equals sign, or nothing but blanks before its first one. -/
def IsKeyless (pair : String) : Prop :=
  -- No blank is an equals sign, so the one behind blanks is the first.
  '=' ∉ pair.toList ∨ ∃ blanks value : List Char, pair.toList = blanks ++ '=' :: value ∧
    ∀ c ∈ blanks, Text.isBlank c = true

/-- A text that has no key is one that is no pair. -/
theorem isKeyless_iff {pair : String} : IsKeyless pair ↔ ¬ IsPair pair := by
  rcases parts : Text.cut '=' pair.toList with ⟨key, _ | value⟩
  · -- Without an equals sign there is nothing before it.
    obtain ⟨-, unmarked⟩ := Text.cut_eq_none_iff.mp parts
    refine iff_of_true (Or.inl unmarked) fun ⟨before, behind, split, _⟩ => unmarked ?_
    simp [split]
  · obtain ⟨split, bare⟩ := Text.cut_eq_some_iff.mp parts
    -- There is one way to cut at the first equals sign, on both sides of the statement.
    have same {before behind : List Char} (other : pair.toList = before ++ '=' :: behind)
        (bareToo : '=' ∉ before) : before = key := by
      have cutToo := Text.cut_eq_some_iff.mpr ⟨other, bareToo⟩
      rw [parts] at cutToo
      exact (Prod.mk.inj cutToo).1.symm
    constructor
    · rintro (unmarked | ⟨blanks, behind, other, blank⟩)
        ⟨before, rest, cut, bareToo, c, inside, ink⟩
      · simp [split] at unmarked
      · have unmarked : '=' ∉ blanks := fun inside => absurd (blank _ inside) (by decide)
        rw [same cut bareToo, ← same other unmarked] at inside
        simp [blank c inside] at ink
    · intro unpaired
      refine Or.inr ⟨key, value, split, fun c inside => ?_⟩
      by_contra ink
      exact unpaired ⟨key, value, split, bare, c, inside, Bool.eq_false_iff.mpr ink⟩

/-- A pair gives an entry of one value under its name. -/
def PairGives (pair : String) (entry : String × List String) : Prop :=
  -- The name is what the pair has before its equals sign.
  ∃ name value, splitPair? pair = some (name, value) ∧ entry = (name, [value])

/-- Pairs describe a context exactly where each gives an entry, and that is built of these. -/
theorem ofPairs_eq_ok_iff {pairs : List String} {context : Context} :
    ofPairs pairs = .ok context ↔
      ∃ entries, List.Forall₂ PairGives pairs entries ∧ context = ofEntries entries := by
  refine foldlM_eq_ok_iff fun context pair next => ?_
  unfold addPair
  split
  · rename_i missing
    simp [PairGives, missing]
  · rename_i name value split
    simp [PairGives, split, eq_comm]

/-- A text gives an entry exactly where it is a pair. -/
theorem exists_pairGives_iff {pair : String} : (∃ entry, PairGives pair entry) ↔ IsPair pair := by
  rw [← splitPair?_isSome_iff, Option.isSome_iff_exists]
  constructor
  · rintro ⟨_, name, value, split, -⟩
    exact ⟨(name, value), split⟩
  · rintro ⟨⟨name, value⟩, split⟩
    exact ⟨_, name, value, split, rfl⟩

/-- Texts lead to a context exactly where all of them are pairs. -/
theorem exists_ofPairs_eq_ok_iff {pairs : List String} :
    (∃ context, ofPairs pairs = .ok context) ↔ ∀ pair ∈ pairs, IsPair pair := by
  simp only [← exists_pairGives_iff]
  exact exists_eq_ok_iff fun _ => ofPairs_eq_ok_iff

/-- Texts are refused for the first one that is no pair. -/
theorem ofPairs_eq_error_iff {pairs : List String} {fault : Fault} :
    ofPairs pairs = .error fault ↔
      ∃ pair, IsFirstWithout IsPair pairs pair ∧ fault = .pairWithoutKey pair := by
  have steps (context : Context) (pair : String) :
      ((∃ next, addPair context pair = .ok next) ↔ IsPair pair) ∧
        ∀ fault, addPair context pair = .error fault ↔
          ¬ IsPair pair ∧ fault = .pairWithoutKey pair := by
    rw [← splitPair?_isSome_iff, addPair]
    cases splitPair? pair <;> simp [eq_comm]
  rw [ofPairs, foldlM_eq_error_iff (fun context pair => (steps context pair).1)
    fun context pair => (steps context pair).2]
  -- The first text that is no pair is none, so this need not be said twice.
  refine exists_congr fun pair => and_congr_right fun first => ?_
  exact and_iff_right first.unfit

/-- Texts are refused exactly where one of them has no key. -/
theorem exists_ofPairs_eq_error_iff {pairs : List String} :
    (∃ fault, ofPairs pairs = .error fault) ↔ ∃ pair ∈ pairs, IsKeyless pair := by
  cases built : ofPairs pairs with
  | ok context =>
    have paired := exists_ofPairs_eq_ok_iff.mp ⟨context, built⟩
    refine iff_of_false (by simp) ?_
    rintro ⟨pair, inside, keyless⟩
    exact isKeyless_iff.mp keyless (paired pair inside)
  | error fault =>
    obtain ⟨pair, ⟨before, after, split, -, unpaired⟩, -⟩ := ofPairs_eq_error_iff.mp built
    exact iff_of_true ⟨fault, rfl⟩ ⟨pair, by simp [split], isKeyless_iff.mpr unpaired⟩

/-- The value that a pair gives for a name. -/
def pairValues (pair name : String) : List String :=
  -- Letter case does not count in names, and blanks around them do not belong to them.
  match splitPair? pair with
  | some (key, value) => if Text.lower key = Text.lower name then [value] else []
  | none => []

/-- A context of pairs has their values under every name, in the order of the pairs. -/
theorem values?_ofPairs {pairs : List String} {context : Context}
    (built : ofPairs pairs = .ok context) :
    context.Orderly ∧ ∀ name, (context.values? name).getD [] =
      pairs.flatMap fun pair => pairValues pair name := by
  obtain ⟨entries, all, rfl⟩ := ofPairs_eq_ok_iff.mp built
  refine ⟨orderly_ofEntries entries, fun name => ?_⟩
  rw [values?_ofEntries]
  refine collected_of_forall₂ (fun pair entry name gives => ?_) all name
  obtain ⟨key, value, split, rfl⟩ := gives
  simp [pairValues, split]

end AccessPolicy.Context
