import AccessPolicy.Proofs.Json.Distinct
import AccessPolicy.Proofs.Json.Numeral

/-!
Values: whatever has no floating-point numbers in it is written in printable characters on one line,
and read back from them.

What is read back is the value with joined texts. It is the value itself where no first half of a
surrogate pair stands directly before a second one.
-/

namespace AccessPolicy.Json

mutual

/-- A value in whose texts the halves of a surrogate pair that stand together are joined. -/
def joined (reserve : Text.Reserve) : Json → Json
  -- Names of members are texts as well.
  | .string text => .string (reserve.joinedText text)
  | .array items => .array (joinedItems reserve items)
  | .object members => .object (putJoined reserve [] members)
  | .null => .null
  | .bool truth => .bool truth
  | .int number => .int number
  | .float number => .float number

/-- Items with joined texts. -/
def joinedItems (reserve : Text.Reserve) : List Json → List Json
  -- Items keep their places.
  | [] => []
  | item :: later => joined reserve item :: joinedItems reserve later

/-- Members with joined texts, put behind others or into their places. -/
def putJoined (reserve : Text.Reserve) (before : Members Json) :
    List (String × Json) → Members Json
  -- Of members whose names become the same the last counts.
  | [] => before
  | (name, value) :: later =>
    putJoined reserve (put (reserve.joinedText name) (joined reserve value) before) later

end

/-- No floating-point number is in a value, and its objects have at most one member of each name. -/
inductive Exact : Json → Prop where
  | null : Exact .null
  | bool (truth : Bool) : Exact (.bool truth)
  | int (number : Int) : Exact (.int number)
  | string (text : String) : Exact (.string text)
  | array {items : List Json} (each : ∀ item ∈ items, Exact item) : Exact (.array items)
  | object {members : Members Json} (once : (names members).Nodup)
      (each : ∀ member ∈ members, Exact member.2) : Exact (.object members)

/-- With enough fuel, a value is read back joined from its written form, up to where that closes. -/
def ReadsBack (reserve : Text.Reserve) (value : Json) : Prop :=
  -- One piece of fuel for each character is enough.
  ∀ fuel rest, (write reserve value).length ≤ fuel → Closes rest →
    readValue reserve fuel (write reserve value ++ rest) = .ok (value.joined reserve, rest)

/-- A text starts with a character that is neither a space nor closes a list. -/
def Opens (chars : List Char) : Prop :=
  -- All written values do.
  ∃ c later, chars = c :: later ∧ isSpace c = false ∧ c ≠ ']'

/-- The written form of such a value starts with a character of its own. -/
theorem Exact.opens {value : Json} (exact : value.Exact) (reserve : Text.Reserve) :
    Opens (write reserve value) := by
  cases exact with
  | null => exact ⟨'n', _, rfl, rfl, by decide⟩
  | bool truth => cases truth with
    | false => exact ⟨'f', _, rfl, rfl, by decide⟩
    | true => exact ⟨'t', _, rfl, rfl, by decide⟩
  | int number =>
    obtain ⟨c, later, starts, rfl | digit⟩ := exists_intNumeral_eq_cons number
    · exact ⟨'-', later, starts, rfl, by decide⟩
    · have visible : isSpace c = false := by
        simp [isSpace, ne_of_digit digit]
      exact ⟨c, later, starts, visible, ne_of_digit digit (by decide)⟩
  | string text => exact ⟨'"', _, rfl, rfl, by decide⟩
  | array each => exact ⟨'[', _, rfl, rfl, by decide⟩
  | object once each => exact ⟨'\x7b', _, rfl, rfl, by decide⟩

namespace Opens

variable {chars : List Char}

/-- More text behind it changes nothing about how a text starts. -/
theorem append (opens : Opens chars) (rest : List Char) : Opens (chars ++ rest) := by
  obtain ⟨c, later, rfl, visible, noEnd⟩ := opens
  exact ⟨c, later ++ rest, rfl, visible, noEnd⟩

/-- There is no space to pass over at the start. -/
theorem skipSpace_eq (opens : Opens chars) : skipSpace chars = chars := by
  obtain ⟨c, later, rfl, visible, -⟩ := opens
  exact List.dropWhile_cons_of_neg (by simp [visible])

/-- The space in front is all that is passed over. -/
theorem skipSpace_blank (opens : Opens chars) : skipSpace (' ' :: chars) = chars := by
  have blank : isSpace ' ' = true := rfl
  rw [skipSpace, List.dropWhile_cons_of_pos blank]
  exact opens.skipSpace_eq

end Opens

section Parts

variable {reserve : Text.Reserve} {fuel : Nat} {chars more rest : List Char} {item value : Json}
  {items : List Json} {name : String} {before members : Members Json}

/-- An item before the closing bracket is the last one. -/
theorem readItems_last (read : readValue reserve fuel chars = .ok (item, ']' :: rest)) :
    readItems reserve (fuel + 1) chars = .ok ([item], rest) := by
  rw [readItems, read]
  rfl

/-- An item before a comma is followed by the items behind that. -/
theorem readItems_next (read : readValue reserve fuel chars = .ok (item, ',' :: ' ' :: more))
    (opens : Opens more) (behind : readItems reserve fuel more = .ok (items, rest)) :
    readItems reserve (fuel + 1) chars = .ok (item :: items, rest) := by
  have comma : skipSpace (',' :: ' ' :: more) = ',' :: ' ' :: more := rfl
  rw [readItems, read]
  simp only [comma, opens.skipSpace_blank, behind]

/-- Items start as the first of them does. -/
theorem opens_writeItems (opens : Opens (write reserve item)) :
    Opens (writeItems reserve (item :: items)) := by
  cases items with
  | nil => exact opens
  | cons next others => exact opens.append _

/-- Items are read back from a list that is closed behind them. -/
theorem readItems_writeItems
    (each : ∀ item ∈ items, ReadsBack reserve item ∧ Opens (write reserve item))
    (filled : items ≠ []) (enough : (writeItems reserve items).length < fuel) :
    readItems reserve fuel (writeItems reserve items ++ ']' :: rest) =
      .ok (joinedItems reserve items, rest) := by
  induction items generalizing fuel with
  | nil => contradiction
  | cons item later ih =>
    obtain ⟨fuel, rfl⟩ := Nat.exists_eq_add_one_of_ne_zero (Nat.ne_of_gt (Nat.zero_lt_of_lt enough))
    obtain ⟨⟨here, -⟩, behind⟩ := List.forall_mem_cons.mp each
    cases later with
    | nil => exact readItems_last (here fuel _ (Nat.le_of_lt_succ enough) (by simp [Closes]))
    | cons next others =>
      obtain ⟨⟨-, opens⟩, -⟩ := List.forall_mem_cons.mp behind
      have long : (writeItems reserve (item :: next :: others)).length =
          (write reserve item).length + (writeItems reserve (next :: others)).length + 2 := by
        simp [writeItems]
        omega
      have split : writeItems reserve (item :: next :: others) ++ ']' :: rest =
          write reserve item ++ ',' :: ' ' ::
            (writeItems reserve (next :: others) ++ ']' :: rest) := by
        simp [writeItems]
      rw [split]
      exact readItems_next (here fuel _ (by omega) (by simp [Closes]))
        ((opens_writeItems opens).append _) (ih behind (by simp) (by omega))

/-- A member before the closing brace is the last one. -/
theorem readMembers_last (quoted : chars.head? = some '"')
    (named : readString reserve fuel chars = .ok (name, ':' :: ' ' :: more)) (opens : Opens more)
    (read : readValue reserve fuel more = .ok (value, '\x7d' :: rest)) :
    readMembers reserve (fuel + 1) before chars = .ok (put name value before, rest) := by
  have colon : skipSpace (':' :: ' ' :: more) = ':' :: ' ' :: more := rfl
  rw [readMembers, if_neg (not_not.mpr quoted), named]
  simp only [colon, opens.skipSpace_blank, read]
  rfl

/-- A member before a comma is followed by the members behind that. -/
theorem readMembers_next {later : List Char} (quoted : chars.head? = some '"')
    (named : readString reserve fuel chars = .ok (name, ':' :: ' ' :: more)) (opens : Opens more)
    (read : readValue reserve fuel more = .ok (value, ',' :: ' ' :: later))
    (opensToo : Opens later) :
    readMembers reserve (fuel + 1) before chars =
      readMembers reserve fuel (put name value before) later := by
  have colon : skipSpace (':' :: ' ' :: more) = ':' :: ' ' :: more := rfl
  have comma : skipSpace (',' :: ' ' :: later) = ',' :: ' ' :: later := rfl
  rw [readMembers, if_neg (not_not.mpr quoted), named]
  simp only [colon, opens.skipSpace_blank, read, comma, opensToo.skipSpace_blank]

/-- Members start with the quotation mark of a name. -/
theorem opens_writeMembers (reserve : Text.Reserve) (member : String × Json)
    (later : Members Json) :
    Opens (writeMembers reserve (member :: later)) := by
  have quote : isSpace '"' = false ∧ '"' ≠ ']' := by decide
  cases later with
  | nil => exact ⟨'"', _, rfl, quote⟩
  | cons next others => exact ⟨'"', _, rfl, quote⟩

/-- Members are read back from an object that is closed behind them, behind those read already. -/
theorem readMembers_writeMembers
    (each : ∀ member ∈ members, ReadsBack reserve member.2 ∧ Opens (write reserve member.2))
    (filled : members ≠ []) (enough : (writeMembers reserve members).length < fuel) :
    readMembers reserve fuel before (writeMembers reserve members ++ '\x7d' :: rest) =
      .ok (putJoined reserve before members, rest) := by
  induction members generalizing fuel before with
  | nil => contradiction
  | cons member later ih =>
    obtain ⟨name, value⟩ := member
    obtain ⟨fuel, rfl⟩ := Nat.exists_eq_add_one_of_ne_zero (Nat.ne_of_gt (Nat.zero_lt_of_lt enough))
    have here : ReadsBack reserve value := (each _ List.mem_cons_self).1
    have opens : Opens (write reserve value) := (each _ List.mem_cons_self).2
    have behind := (List.forall_mem_cons.mp each).2
    cases later with
    | nil =>
      have split : writeMembers reserve [(name, value)] ++ '\x7d' :: rest =
          writeString reserve name ++ ':' :: ' ' :: (write reserve value ++ '\x7d' :: rest) := by
        simp [writeMembers]
      have long : (writeMembers reserve [(name, value)]).length =
          (writeString reserve name).length + (write reserve value).length + 2 := by
        simp [writeMembers]
        omega
      rw [split]
      exact readMembers_last rfl (readString_writeString name (by omega)) (opens.append _)
        (here fuel _ (by omega) (by simp [Closes]))
    | cons next others =>
      have split : writeMembers reserve ((name, value) :: next :: others) ++ '\x7d' :: rest =
          writeString reserve name ++ ':' :: ' ' ::
            (write reserve value ++ ',' :: ' ' ::
              (writeMembers reserve (next :: others) ++ '\x7d' :: rest)) := by
        simp [writeMembers]
      have long : (writeMembers reserve ((name, value) :: next :: others)).length =
          (writeString reserve name).length + (write reserve value).length +
            (writeMembers reserve (next :: others)).length + 4 := by
        simp [writeMembers]
        omega
      rw [split, readMembers_next rfl (readString_writeString name (by omega)) (opens.append _)
        (here fuel _ (by omega) (by simp [Closes]))
        ((opens_writeMembers reserve next others).append _)]
      exact ih behind (by simp) (by omega)

end Parts

/-- A value that is neither a string nor an array nor an object is a word or a number. -/
theorem readValue_atom {c : Char} (noString : c ≠ '"') (noArray : c ≠ '[') (noObject : c ≠ '\x7b')
    (reserve : Text.Reserve) (fuel : Nat) (later : List Char) :
    readValue reserve (fuel + 1) (c :: later) = readAtom (c :: later) := by
  rw [readValue, if_neg noString, if_neg noArray, if_neg noObject]

section Values

variable {reserve : Text.Reserve} {fuel : Nat} {chars rest : List Char}

/-- A quotation mark starts a string. -/
theorem readValue_string {text : String}
    (read : readString reserve fuel ('"' :: chars) = .ok (text, rest)) :
    readValue reserve (fuel + 1) ('"' :: chars) = .ok (.string text, rest) := by
  rw [readValue, if_pos rfl, read]

/-- A bracket starts an array. -/
theorem readValue_array {items : List Json} (opens : Opens chars)
    (read : readItems reserve fuel chars = .ok (items, rest)) :
    readValue reserve (fuel + 1) ('[' :: chars) = .ok (.array items, rest) := by
  have filled : chars.head? ≠ some ']' := by
    obtain ⟨c, later, rfl, -, noEnd⟩ := opens
    simpa using noEnd
  rw [readValue, if_neg (by decide), if_pos rfl]
  simp only [opens.skipSpace_eq, if_neg filled, read]

/-- A brace starts an object. -/
theorem readValue_object {members : Members Json} (opens : Opens chars)
    (quoted : chars.head? = some '"')
    (read : readMembers reserve fuel [] chars = .ok (members, rest)) :
    readValue reserve (fuel + 1) ('\x7b' :: chars) = .ok (.object members, rest) := by
  have filled : chars.head? ≠ some '\x7d' := by
    rw [quoted]
    decide
  rw [readValue, if_neg (by decide), if_neg (by decide), if_pos rfl]
  simp only [opens.skipSpace_eq, if_neg filled, read]

end Values

/-- Fuel for the first character is there, because written values are not empty. -/
theorem readsBack_of_succ {reserve : Text.Reserve} {value : Json}
    (opens : Opens (write reserve value))
    (read : ∀ fuel rest, (write reserve value).length ≤ fuel + 1 → Closes rest →
      readValue reserve (fuel + 1) (write reserve value ++ rest) =
        .ok (value.joined reserve, rest)) :
    ReadsBack reserve value := by
  intro fuel rest enough closes
  obtain ⟨c, later, starts, -, -⟩ := opens
  cases fuel with
  | zero => simp [starts] at enough
  | succ fuel => exact read fuel rest enough closes

/-- The items of an array that can be written can be written. -/
theorem isWritable_array_iff {items : List Json} :
    (Json.array items).isWritable = true ↔ ∀ item ∈ items, item.isWritable = true := by
  rw [isWritable]
  induction items with
  | nil => simp [areWritable]
  | cons item later ih => simp [areWritable, ih]

/-- The members of an object that can be written can be written. -/
theorem isWritable_object_iff {members : Members Json} :
    (Json.object members).isWritable = true ↔ ∀ member ∈ members, member.2.isWritable = true := by
  rw [isWritable]
  induction members with
  | nil => simp [haveWritable]
  | cons member later ih =>
    rw [haveWritable, Bool.and_eq_true, ih, List.forall_mem_cons]

/-- Every value of this kind is read back joined, where its whole numbers are short enough. -/
theorem Exact.readsBack {value : Json} (exact : value.Exact) (reserve : Text.Reserve)
    (writable : value.isWritable = true) : ReadsBack reserve value := by
  induction exact with
  | null => exact readsBack_of_succ (Exact.null.opens reserve) fun _ _ _ _ => rfl
  | bool truth =>
    refine readsBack_of_succ ((Exact.bool truth).opens reserve) fun _ _ _ _ => ?_
    cases truth <;> rfl
  | int number =>
    refine readsBack_of_succ ((Exact.int number).opens reserve) fun fuel rest _ closes => ?_
    have read := readAtom_intNumeral writable closes
    obtain ⟨c, later, starts, first⟩ := exists_intNumeral_eq_cons number
    rw [starts] at read
    rw [write, starts]
    rcases first with rfl | digit
    · exact (readValue_atom (by decide) (by decide) (by decide) _ _ _).trans read
    · exact (readValue_atom (ne_of_digit digit (by decide)) (ne_of_digit digit (by decide))
        (ne_of_digit digit (by decide)) _ _ _).trans read
  | string text =>
    refine readsBack_of_succ ((Exact.string text).opens reserve) fun fuel rest enough _ => ?_
    exact readValue_string (readString_writeString text enough)
  | @array items each ih =>
    have short := isWritable_array_iff.mp writable
    refine readsBack_of_succ ((Exact.array each).opens reserve) fun fuel rest enough _ => ?_
    cases items with
    | nil => rfl
    | cons item later =>
      have fits : ∀ other ∈ item :: later,
          ReadsBack reserve other ∧ Opens (write reserve other) :=
        fun other inside =>
          ⟨ih other inside (short other inside), (each other inside).opens reserve⟩
      have less : (writeItems reserve (item :: later)).length < fuel := by
        simp only [write, List.length_cons, List.length_append, List.length_nil] at enough
        omega
      have opens : Opens (writeItems reserve (item :: later) ++ ']' :: rest) :=
        (opens_writeItems (fits item List.mem_cons_self).2).append _
      have read := readValue_array opens (readItems_writeItems fits (by simp) less)
      rw [write, List.cons_append, List.cons_append, List.append_assoc]
      exact read
  | @object members once each ih =>
    have short := isWritable_object_iff.mp writable
    refine readsBack_of_succ ((Exact.object once each).opens reserve) fun fuel rest enough _ => ?_
    cases members with
    | nil => rfl
    | cons member later =>
      have fits : ∀ other ∈ member :: later,
          ReadsBack reserve other.2 ∧ Opens (write reserve other.2) :=
        fun other inside =>
          ⟨ih other inside (short other inside), (each other inside).opens reserve⟩
      have less : (writeMembers reserve (member :: later)).length < fuel := by
        simp only [write, List.length_cons, List.length_append, List.length_nil] at enough
        omega
      have opens := (opens_writeMembers reserve member later).append ('\x7d' :: rest)
      have read := readValue_object opens (by cases later <;> rfl)
        (readMembers_writeMembers fits (by simp) less)
      rw [write, List.cons_append, List.cons_append, List.append_assoc]
      exact read

section Printable

variable {reserve : Text.Reserve}

/-- Numerals are written in printable characters. -/
theorem printable_intNumeral (number : Int) : ∀ c ∈ Number.intNumeral number, IsPrintable c := by
  have digits (count : Nat) : ∀ c ∈ Number.natNumeral count, IsPrintable c := by
    have shown : ∀ digit < 10, IsPrintable (Number.digitChar digit) := by
      simp only [isPrintable_iff]
      decide
    intro c inside
    obtain ⟨digit, member, rfl⟩ := List.mem_map.mp inside
    exact shown digit (Number.lt_ten_of_mem_digits member)
  cases number with
  | ofNat number => exact digits number
  | negSucc less =>
    have sign : IsPrintable '-' := by simp [isPrintable_iff]
    exact List.forall_mem_cons.mpr ⟨sign, digits _⟩

/-- Items are written in printable characters where each of them is. -/
theorem printable_writeItems {items : List Json}
    (each : ∀ item ∈ items, ∀ c ∈ write reserve item, IsPrintable c) :
    ∀ c ∈ writeItems reserve items, IsPrintable c := by
  have marks : IsPrintable ',' ∧ IsPrintable ' ' := by simp [isPrintable_iff]
  induction items with
  | nil => simp [writeItems]
  | cons item later ih =>
    obtain ⟨here, behind⟩ := List.forall_mem_cons.mp each
    cases later with
    | nil => exact here
    | cons next others =>
      simpa [writeItems, or_imp, forall_and, marks] using ⟨here, ih behind⟩

/-- Members are written in printable characters where the values of all of them are. -/
theorem printable_writeMembers {members : Members Json}
    (each : ∀ member ∈ members, ∀ c ∈ write reserve member.2, IsPrintable c) :
    ∀ c ∈ writeMembers reserve members, IsPrintable c := by
  have marks : IsPrintable ',' ∧ IsPrintable ' ' ∧ IsPrintable ':' := by simp [isPrintable_iff]
  induction members with
  | nil => simp [writeMembers]
  | cons member later ih =>
    obtain ⟨name, value⟩ := member
    obtain ⟨here, behind⟩ := List.forall_mem_cons.mp each
    have named := printable_writeString reserve name
    cases later with
    | nil => simpa [writeMembers, or_imp, forall_and, marks] using ⟨named, here⟩
    | cons next others =>
      simpa [writeMembers, or_imp, forall_and, marks] using ⟨named, here, ih behind⟩

/-- Every value of this kind is written in printable characters, and so on one line. -/
theorem Exact.printable {value : Json} (exact : value.Exact) :
    ∀ c ∈ write reserve value, IsPrintable c := by
  induction exact with
  | null => simp [write, isPrintable_iff]
  | bool truth => cases truth <;> simp [write, isPrintable_iff]
  | int number => exact printable_intNumeral number
  | string text => exact printable_writeString reserve text
  | array each ih =>
    have marks : IsPrintable '[' ∧ IsPrintable ']' := by simp [isPrintable_iff]
    simpa [write, or_imp, forall_and, marks] using printable_writeItems ih
  | object once each ih =>
    have marks : IsPrintable '\x7b' ∧ IsPrintable '\x7d' := by simp [isPrintable_iff]
    simpa [write, or_imp, forall_and, marks] using printable_writeMembers ih

end Printable

/-- Every value of this kind is read back joined from its whole written form. -/
theorem Exact.read_write {value : Json} (exact : value.Exact) (reserve : Text.Reserve)
    (writable : value.isWritable = true) :
    read reserve (write reserve value) = .ok (value.joined reserve) := by
  have valued := exact.readsBack reserve writable (2 * (write reserve value).length + 2) []
    (by omega) (by simp [Closes])
  have unmarked : (write reserve value).head? ≠ some (Char.ofNat 0xFEFF) := by
    intro marked
    have printable := exact.printable _ (List.mem_of_mem_head? marked)
    exact absurd printable.2 (by decide)
  rw [List.append_nil] at valued
  simp only [read, if_neg unmarked, (exact.opens reserve).skipSpace_eq, valued]
  rfl

section Joined

variable {reserve : Text.Reserve}

/-- In all texts of a value the halves of surrogate pairs are apart. -/
inductive Apart (reserve : Text.Reserve) : Json → Prop where
  | null : Apart reserve .null
  | bool (truth : Bool) : Apart reserve (.bool truth)
  | int (number : Int) : Apart reserve (.int number)
  | float (number : Number.Binary64) : Apart reserve (.float number)
  | string {text : String} (apart : reserve.IsApart text.toList) : Apart reserve (.string text)
  | array {items : List Json} (each : ∀ item ∈ items, Apart reserve item) :
      Apart reserve (.array items)
  | object {members : Members Json}
      (named : ∀ name ∈ names members, reserve.IsApart name.toList)
      (each : ∀ member ∈ members, Apart reserve member.2) : Apart reserve (.object members)

/-- Members whose values and names stay the same are put behind others, if the names are new. -/
theorem putJoined_eq_append {before members : Members Json}
    (named : ∀ name ∈ names members, reserve.joinedText name = name)
    (each : ∀ member ∈ members, member.2.joined reserve = member.2)
    (once : (names (before ++ members)).Nodup) :
    putJoined reserve before members = before ++ members := by
  induction members generalizing before with
  | nil => simp [putJoined]
  | cons member later ih =>
    obtain ⟨name, value⟩ := member
    obtain ⟨nameHere, namedLater⟩ := List.forall_mem_cons.mp named
    obtain ⟨here, behind⟩ := List.forall_mem_cons.mp each
    have fresh : put name value before = before ++ [(name, value)] := by
      refine put_of_not_mem (fun again => ?_) value
      rw [names, List.map_append] at once
      exact (List.nodup_append.mp once).2.2 name again name List.mem_cons_self rfl
    have same : reserve.joinedText name = name := nameHere
    have valueSame : value.joined reserve = value := here
    rw [putJoined, same, valueSame, fresh, ih namedLater behind (by simpa using once),
      List.append_assoc, List.singleton_append]

/-- A value of this kind in whose texts the halves are apart is what is read back. -/
theorem Exact.joined_eq_self {value : Json} (exact : value.Exact) (apart : value.Apart reserve) :
    value.joined reserve = value := by
  induction exact with
  | null => rfl
  | bool truth => rfl
  | int number => rfl
  | string text =>
    cases apart with
    | string apart => rw [joined, apart.joinedText_eq_self]
  | @array items each ih =>
    cases apart with
    | array eachApart =>
      have same : joinedItems reserve items = items := by
        clear each
        induction items with
        | nil => rfl
        | cons item later step =>
          obtain ⟨here, behind⟩ := List.forall_mem_cons.mp eachApart
          obtain ⟨ihHere, ihBehind⟩ := List.forall_mem_cons.mp ih
          rw [joinedItems, ihHere here, step ihBehind behind]
      rw [joined, same]
  | @object members once each ih =>
    cases apart with
    | object named eachApart =>
      have same : putJoined reserve [] members = [] ++ members :=
        putJoined_eq_append (fun name inside => (named name inside).joinedText_eq_self)
          (fun member inside => ih member inside (eachApart member inside)) once
      rw [joined, same, List.nil_append]

end Joined

end AccessPolicy.Json
