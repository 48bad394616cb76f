import AccessPolicy.Text.Terminal

/-! Texts for a terminal: what stands before the first sequence is printed as it is. -/

namespace AccessPolicy.Text

/-- Characters that start no sequence stay in front of the others. -/
theorem dropSequences_append {before behind : List Char} (plain : escapeChar ∉ before) :
    dropSequences 0 (before ++ behind) = before ++ dropSequences 0 behind := by
  induction before with
  | nil => rfl
  | cons c later ih =>
    rw [List.mem_cons, not_or] at plain
    have stays : (if c = escapeChar then sequenceLength? (later ++ behind) else none) = none :=
      if_neg (Ne.symm plain.1)
    rw [List.cons_append, dropSequences, stays]
    exact congrArg (c :: ·) (ih plain.2)

/-- A text that starts no sequence is printed in front of the rest. -/
theorem toList_withoutSequences_append {before behind : String}
    (plain : escapeChar ∉ before.toList) :
    (withoutSequences (before ++ behind)).toList =
      before.toList ++ (withoutSequences behind).toList := by
  simp only [withoutSequences, String.toList_append, String.toList_ofList]
  exact dropSequences_append plain

end AccessPolicy.Text
