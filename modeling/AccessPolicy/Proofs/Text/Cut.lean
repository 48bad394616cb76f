import AccessPolicy.Text.Cut

/-! Cutting text at a mark undoes putting the mark between two texts. -/

namespace AccessPolicy.Text

/-- A text is cut where the mark stands for the first time. -/
theorem cut_eq_some_iff {mark : Char} {chars before behind : List Char} :
    cut mark chars = (before, some behind) ↔ chars = before ++ mark :: behind ∧ mark ∉ before := by
  induction chars generalizing before with
  | nil => simp [cut]
  | cons c later ih =>
    rw [cut]
    split
    · -- The mark stands in front, so nothing can be before it.
      rename_i first
      subst first
      cases before with
      | nil => simp
      | cons other earlier => simp +contextual
    · rename_i different
      have behindFirst {earlier : List Char} : (cut mark later).1 = earlier ∧
          (cut mark later).2 = some behind ↔ cut mark later = (earlier, some behind) := by
        rw [Prod.ext_iff]
      cases before with
      | nil => simp [different]
      | cons other earlier =>
        simp only [Prod.mk.injEq, List.cons.injEq, and_assoc, behindFirst, ih, List.cons_append,
          List.mem_cons, not_or]
        constructor
        · rintro ⟨rfl, rfl, apart⟩
          exact ⟨rfl, rfl, Ne.symm different, apart⟩
        · rintro ⟨rfl, rfl, -, apart⟩
          exact ⟨rfl, rfl, apart⟩

/-- A text without a mark is left whole. -/
theorem cut_of_not_mem {mark : Char} {chars : List Char} (unmarked : mark ∉ chars) :
    cut mark chars = (chars, none) := by
  induction chars with
  | nil => rfl
  | cons c later ih =>
    obtain ⟨first, others⟩ := not_or.mp (mt List.mem_cons.mpr unmarked)
    rw [cut, if_neg (Ne.symm first), ih others]

/-- A text that is left whole has no mark in it. -/
theorem cut_eq_none_iff {mark : Char} {chars before : List Char} :
    cut mark chars = (before, none) ↔ before = chars ∧ mark ∉ chars := by
  constructor
  · intro whole
    have unmarked : mark ∉ chars := by
      intro inside
      obtain ⟨earlier, behind, split, bare⟩ := List.eq_append_cons_of_mem inside
      rw [cut_eq_some_iff.mpr ⟨split, bare⟩] at whole
      cases whole
    rw [cut_of_not_mem unmarked] at whole
    exact ⟨(Prod.mk.inj whole).1.symm, unmarked⟩
  · rintro ⟨rfl, unmarked⟩
    exact cut_of_not_mem unmarked

/-- A text without a mark is one piece. -/
theorem pieces_of_not_mem {mark : Char} {chars : List Char} (unmarked : mark ∉ chars) :
    pieces mark chars = [chars] := by
  induction chars with
  | nil => rfl
  | cons c later ih =>
    obtain ⟨first, others⟩ := not_or.mp (mt List.mem_cons.mpr unmarked)
    rw [pieces, if_neg (Ne.symm first), ih others]

/-- A text without a mark is the first piece where a mark stands behind it. -/
theorem pieces_append_cons {mark : Char} {front rest : List Char} (unmarked : mark ∉ front) :
    pieces mark (front ++ mark :: rest) = front :: pieces mark rest := by
  induction front with
  | nil => rw [List.nil_append, pieces, if_pos rfl]
  | cons c later ih =>
    obtain ⟨first, others⟩ := not_or.mp (mt List.mem_cons.mpr unmarked)
    rw [List.cons_append, pieces, if_neg (Ne.symm first), ih others]

/-- Texts that a mark ends are the pieces between the marks, and nothing is behind the last one. -/
theorem pieces_flatMap {mark : Char} {lines : List (List Char)}
    (unmarked : ∀ line ∈ lines, mark ∉ line) :
    pieces mark (lines.flatMap fun line => line ++ [mark]) = lines ++ [[]] := by
  induction lines with
  | nil => rfl
  | cons line later ih =>
    obtain ⟨here, behind⟩ := List.forall_mem_cons.mp unmarked
    rw [List.flatMap_cons, List.append_assoc, List.singleton_append, pieces_append_cons here,
      ih behind, List.cons_append]

/-- Every character of a text is a mark or in one of the pieces. -/
theorem mem_pieces {mark c : Char} {chars : List Char} (inside : c ∈ chars) (other : c ≠ mark) :
    ∃ piece ∈ pieces mark chars, c ∈ piece := by
  induction chars with
  | nil => cases inside
  | cons first later ih =>
    rw [pieces]
    split
    · -- A mark closes an empty piece in front of those behind it.
      rename_i marked
      have behind : c ∈ later := by simpa [marked, other] using inside
      obtain ⟨piece, listed, found⟩ := ih behind
      exact ⟨piece, List.mem_cons_of_mem _ listed, found⟩
    · split
      · rename_i nothing
        rcases List.mem_cons.mp inside with rfl | behind
        · exact ⟨_, List.mem_cons_self, List.mem_cons_self⟩
        · obtain ⟨piece, listed, -⟩ := ih behind
          simp [nothing] at listed
      · rename_i front others found
        rcases List.mem_cons.mp inside with rfl | behind
        · exact ⟨_, List.mem_cons_self, List.mem_cons_self⟩
        · obtain ⟨piece, listed, within⟩ := ih behind
          rw [found] at listed
          rcases List.mem_cons.mp listed with rfl | later
          · exact ⟨_, List.mem_cons_self, List.mem_cons_of_mem _ within⟩
          · exact ⟨piece, List.mem_cons_of_mem _ later, within⟩

/-- The first of several pieces is what stands before the first mark. -/
theorem piecesUpTo_eq_cons_iff {mark : Char} {limit : Nat} {chars piece next : List Char}
    {later : List (List Char)} :
    piecesUpTo mark (limit + 1) chars = piece :: next :: later ↔
      ∃ rest, chars = piece ++ mark :: rest ∧ mark ∉ piece ∧
        piecesUpTo mark limit rest = next :: later := by
  rw [piecesUpTo]
  rcases parts : cut mark chars with ⟨before, _ | behind⟩
  · -- Without a mark there would be one piece only.
    refine iff_of_false (by simp) ?_
    intro ⟨rest, split, bare, _⟩
    have cutOff : cut mark chars = (piece, some rest) := cut_eq_some_iff.mpr ⟨split, bare⟩
    simp [parts] at cutOff
  · simp only [List.cons.injEq]
    constructor
    · intro ⟨same, others⟩
      obtain ⟨split, bare⟩ := cut_eq_some_iff.mp parts
      subst same
      exact ⟨behind, split, bare, others⟩
    · intro ⟨rest, split, bare, others⟩
      have cutOff : cut mark chars = (piece, some rest) := cut_eq_some_iff.mpr ⟨split, bare⟩
      rw [parts] at cutOff
      cases cutOff
      exact ⟨rfl, others⟩

/-- Up to the limit there is one piece more than there are marks. -/
theorem length_piecesUpTo (mark : Char) (limit : Nat) (chars : List Char) :
    (piecesUpTo mark limit chars).length = min limit (chars.count mark) + 1 := by
  induction limit generalizing chars with
  | zero => simp [piecesUpTo]
  | succ limit ih =>
    rw [piecesUpTo]
    rcases parts : cut mark chars with ⟨before, _ | behind⟩
    · have unmarked := (cut_eq_none_iff.mp parts).2
      simp [List.count_eq_zero.mpr unmarked]
    · -- The first mark is the one that is cut at.
      obtain ⟨rfl, unmarked⟩ := cut_eq_some_iff.mp parts
      rw [List.length_cons, ih, List.count_append, List.count_cons_self,
        List.count_eq_zero.mpr unmarked]
      omega

end AccessPolicy.Text
