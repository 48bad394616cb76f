import AccessPolicy.Text.Blank
import Mathlib.Data.List.TakeWhile

/-! Text without the characters of a class at its ends: what was there before, and what is left. -/

namespace AccessPolicy.Text

variable {drop : Char → Bool} {chars front inner rest : List Char}

/-- What is left behind the first characters of a class is what they stood in front of. -/
theorem dropWhile_eq_iff :
    chars.dropWhile drop = rest ↔ ∃ lead, chars = lead ++ rest ∧ (∀ c ∈ lead, drop c = true) ∧
      ∀ c ∈ rest.head?, drop c = false := by
  constructor
  · rintro rfl
    refine ⟨chars.takeWhile drop, List.takeWhile_append_dropWhile.symm,
      fun c inside => List.mem_takeWhile_imp inside, fun c first => ?_⟩
    have kept := List.head?_dropWhile_not drop chars
    rw [Option.mem_def.mp first] at kept
    simpa using kept
  · rintro ⟨lead, rfl, dropped, kept⟩
    rw [List.dropWhile_append_of_pos dropped]
    cases rest with
    | nil => rfl
    | cons c later => exact List.dropWhile_cons_of_neg (by simp [kept c rfl])

/-- What is left in front of the last characters of a class is what they stood behind. -/
theorem dropLastWhile_eq_iff :
    dropLastWhile drop chars = front ↔ ∃ trail, chars = front ++ trail ∧
      (∀ c ∈ trail, drop c = true) ∧ ∀ c ∈ front.getLast?, drop c = false := by
  rw [dropLastWhile, List.reverse_eq_iff, dropWhile_eq_iff, List.head?_reverse]
  constructor
  · rintro ⟨lead, split, dropped, kept⟩
    refine ⟨lead.reverse, ?_, fun c inside => dropped c (List.mem_reverse.mp inside), kept⟩
    rw [List.reverse_eq_iff.mp split, List.reverse_append, List.reverse_reverse]
  · rintro ⟨trail, rfl, dropped, kept⟩
    exact ⟨trail.reverse, List.reverse_append, fun c inside => dropped c (List.mem_reverse.mp inside),
      kept⟩

/-- A text is what is inside of it between blanks, and that starts and ends with no blank. -/
structure Encloses (chars inner : List Char) : Prop where
  blanks : ∃ lead trail, chars = lead ++ inner ++ trail ∧ (∀ c ∈ lead, isBlank c = true) ∧
    ∀ c ∈ trail, isBlank c = true
  first : ∀ c ∈ inner.head?, isBlank c = false
  last : ∀ c ∈ inner.getLast?, isBlank c = false

/-- Nothing remains of blanks. -/
theorem trim_of_blank (blank : ∀ c ∈ chars, isBlank c = true) : trim chars = [] := by
  rw [trim, trimOf, List.dropWhile_eq_nil_iff.mpr blank]
  rfl

/-- Trimming finds what is between the blanks of a text. -/
theorem trim_eq_iff : trim chars = inner ↔ Encloses chars inner := by
  constructor
  · rintro rfl
    obtain ⟨lead, split, blank, starts⟩ := dropWhile_eq_iff.mp (rfl : chars.dropWhile isBlank = _)
    obtain ⟨trail, rest, blankToo, ends⟩ :=
      dropLastWhile_eq_iff.mp (rfl : dropLastWhile isBlank (chars.dropWhile isBlank) = _)
    refine ⟨⟨lead, trail, ?_, blank, blankToo⟩, fun c first => ?_, ends⟩
    · rw [List.append_assoc]
      exact split.trans (congrArg (lead ++ ·) rest)
    · -- What is left starts as it did before its end was dropped.
      refine starts c ?_
      have firstLeft : (dropLastWhile isBlank (chars.dropWhile isBlank)).head? = some c := first
      rw [rest, Option.mem_def, List.head?_append, firstLeft]
      rfl
  · rintro ⟨⟨lead, trail, rfl, blank, blankToo⟩, first, last⟩
    cases inner with
    | nil =>
      refine trim_of_blank fun c inside => ?_
      rcases List.mem_append.mp inside with before | behind
      · exact blank c (by simpa using before)
      · exact blankToo c behind
    | cons c later =>
      have starts : (lead ++ (c :: later) ++ trail).dropWhile isBlank = c :: later ++ trail :=
        dropWhile_eq_iff.mpr ⟨lead, List.append_assoc _ _ _, blank, first⟩
      rw [trim, trimOf, starts]
      exact dropLastWhile_eq_iff.mpr ⟨trail, rfl, blankToo, last⟩

/-- Text without blanks is not trimmed. -/
theorem trim_eq_self (filled : ∀ c ∈ chars, isBlank c = false) : trim chars = chars :=
  trim_eq_iff.mpr ⟨⟨[], [], by simp, by simp, by simp⟩,
    fun c first => filled c (List.mem_of_mem_head? first),
    fun c last => filled c (List.mem_of_mem_getLast? last)⟩

/-- Nothing remains of a text where blanks at its ends are removed if there is nothing but blanks. -/
theorem trim_eq_nil_iff : trim chars = [] ↔ ∀ c ∈ chars, isBlank c = true := by
  refine ⟨fun trimmed => ?_, trim_of_blank⟩
  obtain ⟨lead, trail, rfl, blank, blankToo⟩ := (trim_eq_iff.mp trimmed).blanks
  simpa using List.forall_mem_append.mpr ⟨blank, blankToo⟩

end AccessPolicy.Text
