import AccessPolicy.Condition.Operator

/-! Operator keys: how a set operator, a name and an ending are written in a row. -/

namespace AccessPolicy.Condition

/-- Every operator is among all of them. -/
theorem Operator.mem_all (operator : Operator) : operator ∈ all := by
  cases operator <;> decide

/-- The operator of a name has that name. -/
theorem Operator.name_of_ofName? {name : String} {operator : Operator}
    (found : ofName? name = some operator) : operator.name = name := by
  simpa using List.find?_some found

/-- Every operator is the operator of its name. -/
theorem Operator.ofName?_name (operator : Operator) : ofName? operator.name = some operator := by
  have all : ∀ operator ∈ Operator.all, ofName? operator.name = some operator := by
    decide +kernel
  exact all operator operator.mem_all

namespace OperatorKey

/-- The beginnings that stand for a set operator, or for none. -/
def beginnings : Option Quantifier → List String
  -- The second set operator may be written in the plural.
  | none => [""]
  | some .forAllValues => ["ForAllValues:"]
  | some .forAnyValue => ["ForAnyValue:", "ForAnyValues:"]

/-- The ending of a key. -/
def ending (ifExists : Bool) : String :=
  -- Only keys that hold without their values have one.
  if ifExists then "IfExists" else ""

/-- A key is written as a text: its parts in a row, of which the test for presence has only one. -/
structure WrittenAs (key : OperatorKey) (text : String) : Prop where
  kept : key.raw = text
  parts : ∃ beginning ∈ beginnings key.quantifier,
    text = beginning ++ key.base.name ++ ending key.ifExists
  plain : key.base = .null → key.quantifier = none ∧ key.ifExists = false

/-- A beginning that is taken off stood before what is left. -/
theorem eq_append_of_behind? {beginning : String} {chars rest : List Char}
    (taken : behind? beginning chars = some rest) : chars = beginning.toList ++ rest := by
  unfold behind? at taken
  split at taken
  · rename_i starts
    obtain ⟨later, rfl⟩ := List.isPrefixOf_iff_prefix.mp starts
    simpa using taken
  · cases taken

/-- A beginning that is there is taken off. -/
theorem behind?_append (beginning : String) (rest : List Char) :
    behind? beginning (beginning.toList ++ rest) = some rest := by
  have starts : beginning.toList.isPrefixOf (beginning.toList ++ rest) = true :=
    List.isPrefixOf_iff_prefix.mpr (List.prefix_append _ _)
  rw [behind?, if_pos starts, List.drop_left]

/-- Nothing is taken off a text that starts with another character. -/
theorem behind?_eq_none {beginning : String} {c : Char} {chars : List Char}
    (starts : beginning.toList.head? = some c) (other : chars.head? ≠ some c) :
    behind? beginning chars = none := by
  refine if_neg fun front => ?_
  obtain ⟨rest, rfl⟩ := List.isPrefixOf_iff_prefix.mp front
  simp [starts] at other

/-- What is left behind a set operator is what stood behind one of its beginnings. -/
theorem takeQuantifier_parts (chars : List Char) :
    ∃ beginning ∈ beginnings (takeQuantifier chars).1,
      chars = beginning.toList ++ (takeQuantifier chars).2 := by
  unfold takeQuantifier
  split
  · rename_i rest all
    exact ⟨_, List.mem_singleton.mpr rfl, eq_append_of_behind? all⟩
  · split
    · rename_i rest any
      -- The singular is tried before the plural.
      rcases Option.or_eq_some_iff.mp any with one | ⟨-, several⟩
      · exact ⟨"ForAnyValue:", by simp [beginnings], eq_append_of_behind? one⟩
      · exact ⟨"ForAnyValues:", by simp [beginnings], eq_append_of_behind? several⟩
    · exact ⟨"", by simp [beginnings], rfl⟩

/-- A set operator is taken off whatever follows, if that starts with no set operator itself. -/
theorem takeQuantifier_append {quantifier : Option Quantifier} {beginning : String}
    (listed : beginning ∈ beginnings quantifier) {rest : List Char}
    (bare : rest.head? ≠ some 'F') :
    takeQuantifier (beginning.toList ++ rest) = (quantifier, rest) := by
  rcases quantifier with _ | _ | _
  · obtain rfl : beginning = "" := List.mem_singleton.mp listed
    have all : behind? "ForAllValues:" rest = none := behind?_eq_none (by decide +kernel) bare
    have any : behind? "ForAnyValue:" rest = none := behind?_eq_none (by decide +kernel) bare
    have several : behind? "ForAnyValues:" rest = none :=
      behind?_eq_none (by decide +kernel) bare
    simp [takeQuantifier, all, any, several]
  · obtain rfl : beginning = "ForAllValues:" := List.mem_singleton.mp listed
    rw [takeQuantifier, behind?_append]
  · have apart : behind? "ForAllValues:" (beginning.toList ++ rest) = none := by
      -- The fourth characters differ.
      simp only [beginnings, List.mem_cons, List.not_mem_nil, or_false] at listed
      rcases listed with rfl | rfl <;> simp [behind?]
    have found : (behind? "ForAnyValue:" (beginning.toList ++ rest)).or
        (behind? "ForAnyValues:" (beginning.toList ++ rest)) = some rest := by
      simp only [beginnings, List.mem_cons, List.not_mem_nil, or_false] at listed
      rcases listed with rfl | rfl
      · rw [behind?_append, Option.some_or]
      · -- The singular has a colon where the plural goes on.
        have plural : behind? "ForAnyValue:" ("ForAnyValues:".toList ++ rest) = none := by
          simp [behind?]
        rw [plural, Option.none_or, behind?_append]
    rw [takeQuantifier, apart, found]

/-- What is left before an ending is what stood before it. -/
theorem takeIfExists_parts (chars : List Char) :
    chars = (takeIfExists chars).2 ++ (ending (takeIfExists chars).1).toList := by
  unfold takeIfExists
  split
  · rename_i ends
    obtain ⟨earlier, rfl⟩ := List.isSuffixOf_iff_suffix.mp ends
    have front : (earlier ++ ifExistsEnding).take
        ((earlier ++ ifExistsEnding).length - ifExistsEnding.length) = earlier := by
      rw [List.length_append, Nat.add_sub_cancel, List.take_left]
    rw [front]
    rfl
  · exact (List.append_nil chars).symm

/-- An ending is taken off whatever stands before it, if that has no such ending itself. -/
theorem takeIfExists_append {name : List Char} (bare : ifExistsEnding.isSuffixOf name = false)
    (ifExists : Bool) : takeIfExists (name ++ (ending ifExists).toList) = (ifExists, name) := by
  cases ifExists with
  | false => simp [takeIfExists, ending, bare]
  | true =>
    have ends : ifExistsEnding.isSuffixOf (name ++ ifExistsEnding) = true :=
      List.isSuffixOf_iff_suffix.mpr (List.suffix_append _ _)
    have front : (name ++ ifExistsEnding).take
        ((name ++ ifExistsEnding).length - ifExistsEnding.length) = name := by
      rw [List.length_append, Nat.add_sub_cancel, List.take_left]
    change takeIfExists (name ++ ifExistsEnding) = (true, name)
    rw [takeIfExists, if_pos ends, front]

/-- No name of an operator looks like a set operator at its start or has the ending. -/
theorem name_bare (operator : Operator) :
    operator.name.toList.head? ≠ some 'F' ∧ operator.name.toList ≠ [] ∧
      ifExistsEnding.isSuffixOf operator.name.toList = false := by
  have all : ∀ operator ∈ Operator.all, operator.name.toList.head? ≠ some 'F' ∧
      operator.name.toList ≠ [] ∧ ifExistsEnding.isSuffixOf operator.name.toList = false := by
    decide +kernel
  exact all operator operator.mem_all

/-- A text of which a known name is left consists of its parts in a row. -/
theorem row_of_ofName? {text : String} {quantifier : Option Quantifier} {rest name : List Char}
    {ifExists : Bool} {base : Operator} (taken : takeQuantifier text.toList = (quantifier, rest))
    (cut : takeIfExists rest = (ifExists, name))
    (named : Operator.ofName? (String.ofList name) = some base) :
    ∃ beginning ∈ beginnings quantifier, text = beginning ++ base.name ++ ending ifExists := by
  obtain ⟨beginning, listed, front⟩ := takeQuantifier_parts text.toList
  have back := takeIfExists_parts (takeQuantifier text.toList).2
  simp only [taken, cut] at listed front back
  refine ⟨beginning, listed, ?_⟩
  -- The text is the beginning, the name and the ending, one after the other.
  apply String.toList_injective
  simp [front, back, Operator.name_of_ofName? named]

/-- From parts in a row, what stands around the name is taken off, so that the name is left. -/
theorem taken_row {quantifier : Option Quantifier} {beginning : String}
    (listed : beginning ∈ beginnings quantifier) (base : Operator) (ifExists : Bool) :
    takeQuantifier (beginning ++ base.name ++ ending ifExists).toList =
        (quantifier, base.name.toList ++ (ending ifExists).toList) ∧
      takeIfExists (base.name.toList ++ (ending ifExists).toList) =
        (ifExists, base.name.toList) := by
  obtain ⟨start, filled, bare⟩ := name_bare base
  have front : (base.name.toList ++ (ending ifExists).toList).head? ≠ some 'F' := by
    obtain ⟨c, later, shape⟩ := List.exists_cons_of_ne_nil filled
    simpa [shape] using start
  simp only [String.toList_append, List.append_assoc]
  exact ⟨takeQuantifier_append listed front, takeIfExists_append bare ifExists⟩

/-- Parts in a row are read, but for a test for presence with more than its name. -/
theorem read_row {quantifier : Option Quantifier} {beginning : String}
    (listed : beginning ∈ beginnings quantifier) (base : Operator) (ifExists : Bool) :
    read (beginning ++ base.name ++ ending ifExists) =
      if base = .null ∧ (ifExists ∨ quantifier.isSome) then .error .qualifiedNull
      else .ok ⟨beginning ++ base.name ++ ending ifExists, base, ifExists, quantifier⟩ := by
  obtain ⟨front, back⟩ := taken_row listed base ifExists
  simp only [read, front, back, String.ofList_toList, Operator.ofName?_name]

/-- A text is read as a key exactly where the key is written as the text. -/
theorem read_eq_ok_iff {text : String} {key : OperatorKey} :
    read text = .ok key ↔ key.WrittenAs text := by
  constructor
  · intro accepted
    rcases taken : takeQuantifier text.toList with ⟨quantifier, rest⟩
    rcases cut : takeIfExists rest with ⟨ifExists, name⟩
    cases named : Operator.ofName? (String.ofList name) with
    | none => simp [read, taken, cut, named] at accepted
    | some base =>
      simp only [read, taken, cut, named] at accepted
      split at accepted
      · cases accepted
      · rename_i allowed
        cases accepted
        refine ⟨rfl, row_of_ofName? taken cut named, fun presence => ?_⟩
        simpa [presence, and_comm] using fun both => allowed ⟨presence, both⟩
  · obtain ⟨raw, base, ifExists, quantifier⟩ := key
    rintro ⟨kept, ⟨beginning, listed, parts⟩, plain⟩
    simp only at kept listed parts plain
    subst kept parts
    have allowed : ¬ (base = .null ∧ (ifExists = true ∨ quantifier.isSome = true)) := by
      rintro ⟨presence, both⟩
      obtain ⟨rfl, rfl⟩ := plain presence
      simp at both
    rw [read_row listed, if_neg allowed]

/-- The test for presence is written in one way. -/
theorem WrittenAs.eq_null {text : String} {key : OperatorKey} (written : key.WrittenAs text)
    (presence : key.base = .null) : text = "Null" := by
  obtain ⟨beginning, listed, parts⟩ := written.parts
  obtain ⟨bare, plain⟩ := written.plain presence
  rw [bare] at listed
  obtain rfl : beginning = "" := List.mem_singleton.mp listed
  rw [parts, presence, plain]
  rfl

/-- A text is the written form of one key only. -/
theorem WrittenAs.unique {text : String} {key other : OperatorKey} (written : key.WrittenAs text)
    (writtenToo : other.WrittenAs text) : key = other :=
  Except.ok.inj ((read_eq_ok_iff.mpr written).symm.trans (read_eq_ok_iff.mpr writtenToo))

end OperatorKey

end AccessPolicy.Condition
