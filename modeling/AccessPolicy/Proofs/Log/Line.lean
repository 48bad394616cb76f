import AccessPolicy.Log.Entry
import AccessPolicy.Proofs.Json.Rereading
import AccessPolicy.Proofs.Paired
import AccessPolicy.Proofs.Result
import AccessPolicy.Proofs.Text.Cut
import AccessPolicy.Text.Utf8

/-!
Lines of the log: each is written in printable characters, and read back as what the entry tells.

An entry names values one after the other, and of several values with one name the last counts.
-/

namespace AccessPolicy

namespace Json

/-- Members are what was told of them, each with its last value at the place of its first one. -/
structure Gathers (told : List (String × Json)) (members : Members Json) : Prop where
  once : (names members).Nodup
  last : ∀ name, find? name members = told.reverse.lookup name
  order : names members = (names told).eraseDups

namespace Gathers

variable {told : List (String × Json)} {members : Members Json}

/-- Of nothing there are no members. -/
theorem nil : Gathers [] [] where
  once := List.nodup_nil
  last _ := rfl
  order := rfl

/-- A value that is told further is put among the members. -/
theorem put (gathers : Gathers told members) (name : String) (value : Json) :
    Gathers (told ++ [(name, value)]) (put name value members) where
  once := nodup_names_put gathers.once name value
  last asked := by
    rw [List.reverse_append, List.reverse_singleton, List.singleton_append]
    by_cases same : name = asked
    · subst same
      rw [find?_put, List.lookup_cons_self]
    · rw [find?_put_of_ne same, gathers.last, ← find?, ← find?, find?_cons_of_ne same]
  order := by
    have further : names (told ++ [(name, value)]) = names told ++ [name] := List.map_append
    rw [further, List.eraseDups_append, ← gathers.order]
    have listed : name ∈ names members ↔ name ∈ names told := by
      rw [gathers.order, List.mem_eraseDups]
    cases found : find? name members with
    | some old =>
      have known : name ∈ names told := by
        rw [← listed]
        exact List.mem_map_of_mem (mem_of_find? found)
      rw [names_put found]
      simp [List.removeAll, known]
    | none =>
      have fresh : name ∉ names members := find?_eq_none_iff.mp found
      rw [put_of_not_mem fresh, names, List.map_append, ← names]
      simp [List.removeAll, listed.not.mp fresh, List.eraseDups_cons]

/-- Values that are told further are put among the members one by one. -/
theorem putAll (gathers : Gathers told members) (news : List (String × Json)) :
    Gathers (told ++ news) (Log.Entry.putAll members news) := by
  induction news generalizing told members with
  | nil => rwa [List.append_nil]
  | cons first later ih =>
    have step := ih (gathers.put first.1 first.2)
    rwa [List.append_assoc, List.singleton_append] at step

/-- All that is known about a member was told. -/
theorem mem_told (gathers : Gathers told members) {member : String × Json}
    (inside : member ∈ members) : member ∈ told := by
  have found := (find?_eq_some_iff gathers.once).mpr inside
  rw [gathers.last] at found
  exact List.mem_reverse.mp (mem_of_find? found)

/-- The members hold values that are read back where all values that were told are. -/
theorem exact (gathers : Gathers told members) (each : ∀ member ∈ told, member.2.Exact) :
    (Json.object members).Exact :=
  .object gathers.once fun member inside => each member (gathers.mem_told inside)

end Gathers

end Json

namespace Log

/-- The values that a message names. -/
def Message.told : Message → List (String × Json)
  -- A text goes by a name of its own.
  | .named members => members
  | .text plain => [("message", .string plain)]

namespace Entry

/-- What an entry tells, one value after the other. -/
def told (entry : Entry) : List (String × Json) :=
  -- Every entry starts alike, and the text of an exception comes last.
  [("time", .string entry.time), ("level", .string entry.level), ("logger", .string entry.source)]
    ++ entry.message.told ++ (entry.exception.map fun text => ("exception", .string text)).toList

/-- Values can be put among members in two steps. -/
theorem putAll_append (members news later : List (String × Json)) :
    putAll members (news ++ later) = putAll (putAll members news) later :=
  List.foldl_append

/-- The members of an entry are what it tells, put there in this order. -/
theorem members_eq (entry : Entry) : entry.members = putAll [] entry.told := by
  obtain ⟨time, level, source, message, exception⟩ := entry
  have start : putAll []
      [("time", .string time), ("level", .string level), ("logger", .string source)] =
      [("time", .string time), ("level", .string level), ("logger", .string source)] := by
    simp [putAll, Json.put]
  rw [told, putAll_append, putAll_append, start]
  cases message <;> cases exception <;> rfl

/-- The members of an entry are what it tells. -/
theorem gathers_members (entry : Entry) : Json.Gathers entry.told entry.members := by
  rw [members_eq]
  exact Json.Gathers.nil.putAll entry.told

end Entry

/--
A line of printable characters is read as the members that are told.

Halves of a surrogate pair that stand together are read as the character of the pair, and where
there are none, nothing is changed.
-/
def Tells (reserve : Text.Reserve) (told : List (String × Json)) (line : List Char) : Prop :=
  -- Line ends are not printable, so it is one line.
  (∀ c ∈ line, Json.IsPrintable c) ∧
    ∃ members, Json.Gathers told members ∧
      Json.read reserve line = .ok ((Json.object members).joined reserve) ∧
      ((∀ member ∈ told, reserve.IsApart member.1.toList ∧ member.2.Apart reserve) →
        (Json.object members).joined reserve = .object members)

namespace Entry

variable {entry : Entry} {reserve : Text.Reserve} {line : String}

/-- All that an entry tells is read back where the values that its message names are. -/
theorem exact_told (each : ∀ member ∈ entry.message.told, member.2.Exact) :
    ∀ member ∈ entry.told, member.2.Exact := by
  intro member inside
  rcases List.mem_append.mp inside with before | last
  · rcases List.mem_append.mp before with first | named
    · simp only [List.mem_cons, List.not_mem_nil, or_false] at first
      rcases first with rfl | rfl | rfl <;> exact .string _
    · exact each member named
  · obtain ⟨text, -, rfl⟩ := Option.map_eq_some_iff.mp (Option.mem_toList.mp last)
    exact .string text

/-- An entry that can be written has a line. -/
theorem line?_eq_some_iff : entry.line? reserve = some line ↔
    entry.isWritable = true ∧ line.toList = Json.write reserve (.object entry.members) := by
  rw [line?]
  split
  · rename_i writable
    simp [writable, Json.text, ← String.toList_inj, eq_comm]
  · rename_i unwritable
    simp [unwritable]

/-- An entry whose message can be written has a line. -/
theorem exists_line (reserve : Text.Reserve) (entry : Entry)
    (short : ∀ member ∈ entry.message.told, member.2.isWritable = true) :
    ∃ line, entry.line? reserve = some line := by
  have all : ∀ member ∈ entry.told, member.2.isWritable = true := by
    intro member inside
    rcases List.mem_append.mp inside with before | last
    · rcases List.mem_append.mp before with first | named
      · simp only [List.mem_cons, List.not_mem_nil, or_false] at first
        rcases first with rfl | rfl | rfl <;> rfl
      · exact short member named
    · obtain ⟨text, -, rfl⟩ := Option.map_eq_some_iff.mp (Option.mem_toList.mp last)
      rfl
  have writable : entry.isWritable = true :=
    Json.isWritable_object_iff.mpr fun member inside =>
      all member (entry.gathers_members.mem_told inside)
  exact ⟨_, if_pos writable⟩

/-- The line of an entry tells what the entry does. -/
theorem tells_line (each : ∀ member ∈ entry.message.told, member.2.Exact)
    (written : entry.line? reserve = some line) : Tells reserve entry.told line.toList := by
  obtain ⟨writable, written⟩ := line?_eq_some_iff.mp written
  have gathers := entry.gathers_members
  have exact : (Json.object entry.members).Exact := gathers.exact (exact_told each)
  rw [written]
  refine ⟨exact.printable, entry.members, gathers, exact.read_write reserve writable, ?_⟩
  intro apart
  refine exact.joined_eq_self (.object (fun name named => ?_) fun member inside => ?_)
  · obtain ⟨member, inside, rfl⟩ := List.mem_map.mp named
    exact (apart member (gathers.mem_told inside)).1
  · exact (apart member (gathers.mem_told inside)).2

end Entry

/-- What a message tells is read back where the members of an object that it is made of are. -/
theorem Message.exact_told {reserve : Text.Reserve} {value : Json} {values : List Json}
    {message : Message} (made : Message.of reserve value values = .ok message)
    (each : ∀ members, value = .object members → ∀ member ∈ members, member.2.Exact) :
    ∀ member ∈ message.told, member.2.Exact := by
  have text {plain : String} : ∀ member ∈ (Message.text plain).told, member.2.Exact :=
    List.forall_mem_singleton.mpr (.string plain)
  unfold Message.of at made
  split at made
  · cases made
    exact each _ rfl
  · obtain ⟨shown, -, made⟩ := bind_eq_ok_iff.mp made
    dsimp only at made
    split at made
    · cases made
      exact text
    · obtain ⟨plain, -, made⟩ := bind_eq_ok_iff.mp made
      cases made
      exact text

/-- The values that describe an event are read back. -/
theorem Event.exact_fields (event : Event) : ∀ member ∈ event.fields, member.2.Exact := by
  have optional (text : Option String) : (Event.optional text).Exact := by
    cases text with
    | none => exact .null
    | some text => exact .string text
  have texts (texts : List String) : (Json.array (texts.map .string)).Exact :=
    .array (List.forall_mem_map.mpr fun text _ => .string text)
  have numbers (numbers : List Int) : (Json.array (numbers.map .int)).Exact :=
    .array (List.forall_mem_map.mpr fun number _ => .int number)
  cases event <;>
    simp [fields, optional, texts, numbers, Json.Exact.string, Json.Exact.int]

/-- The whole numbers that describe an event: those of statements, or how many there are. -/
def Event.numbers : Event → List Int
  -- A single statement goes by its label where it applies.
  | .conditionTypeHint statement .. => [statement]
  | .policyParsed _ _ statements | .policyLoaded _ statements => [(statements : Int)]
  | .statementApplicable .. => []
  | .policyDecision _ _ statements .. => statements

/-- An event can be written where its numbers can. -/
theorem Event.isWritable_fields {event : Event}
    (short : ∀ number ∈ event.numbers, Number.isShort number = true) :
    ∀ member ∈ event.fields, member.2.isWritable = true := by
  have optional (text : Option String) : (Event.optional text).isWritable = true := by
    cases text <;> rfl
  have texts (texts : List String) : (Json.array (texts.map .string)).isWritable = true :=
    Json.isWritable_array_iff.mpr (List.forall_mem_map.mpr fun text _ => rfl)
  have string (text : String) : (Json.string text).isWritable = true := rfl
  have int (number : Int) : (Json.int number).isWritable = Number.isShort number := rfl
  cases event with
  | policyDecision decision sids statements action resource principal =>
    have listed : (Json.array (statements.map .int)).isWritable = true :=
      Json.isWritable_array_iff.mpr (List.forall_mem_map.mpr short)
    simp [fields, optional, texts, string, listed]
  | statementApplicable label effect => simp [fields, string]
  | conditionTypeHint statement sid operator key hint =>
    simpa [fields, optional, string, int, numbers] using short
  | policyParsed version id statements =>
    simpa [fields, optional, string, int, numbers] using short
  | policyLoaded path statements =>
    simpa [fields, optional, string, int, numbers] using short

/-- All entries of events whose numbers can be written can be written. -/
theorem isWritable_of_mem_entries {time : String} {least : Level} {events : List Event}
    (short : ∀ event ∈ events, ∀ number ∈ event.numbers, Number.isShort number = true) :
    ∀ entry ∈ entries time least events, entry.isWritable = true := by
  intro entry listed
  obtain ⟨event, inside, rfl⟩ := List.mem_map.mp listed
  have fields := event.isWritable_fields (short event (List.mem_of_mem_filter inside))
  obtain ⟨line, written⟩ := Entry.exists_line .first (Entry.ofEvent time event) fields
  exact (Entry.line?_eq_some_iff.mp written).1

/-- A text is cut at its line ends into one line for each event that matters and can be written. -/
def Records (reserve : Text.Reserve) (time : String) (least : Level) (events : List Event)
    (chars : List Char) : Prop :=
  -- The last line has an end as well, so nothing is behind it.
  ∃ lines, Text.pieces '\n' chars = lines ++ [[]] ∧
    List.Forall₂ (fun entry line => Tells reserve entry.told line)
      ((entries time least events).filter Entry.isWritable) lines

/-- The text of the lines of some events. -/
def textOf (reserve : Text.Reserve) (time : String) (least : Level) (events : List Event) :
    String :=
  -- Every event takes a line.
  String.join ((lines reserve time least events).map fun line => line ++ "\n")

/-- The lines of entries are those of the ones that can be written, in the same order. -/
theorem Entry.forall₂_tells {reserve : Text.Reserve} {entries : List Entry}
    (told : ∀ entry ∈ entries, ∀ line, entry.line? reserve = some line →
      Tells reserve entry.told line.toList) :
    List.Forall₂ (fun entry line => Tells reserve entry.told line)
      (entries.filter Entry.isWritable)
      ((entries.filterMap (Entry.line? reserve)).map String.toList) := by
  induction entries with
  | nil => exact .nil
  | cons entry later ih =>
    obtain ⟨here, behind⟩ := List.forall_mem_cons.mp told
    cases writable : entry.isWritable with
    | true =>
      have written : entry.line? reserve = some _ := if_pos writable
      rw [List.filterMap_cons_some written, List.filter_cons_of_pos writable, List.map_cons]
      exact .cons (here _ written) (ih behind)
    | false =>
      have unwritten : entry.line? reserve = none := if_neg (by simp [writable])
      rw [List.filterMap_cons_none unwritten, List.filter_cons_of_neg (by simp [writable])]
      exact ih behind

/-- The lines of events record them. -/
theorem records_textOf (reserve : Text.Reserve) (time : String) (least : Level)
    (events : List Event) :
    Records reserve time least events (textOf reserve time least events).toList := by
  have told : ∀ entry ∈ entries time least events, ∀ line, entry.line? reserve = some line →
      Tells reserve entry.told line.toList := by
    intro entry listed line written
    obtain ⟨event, -, rfl⟩ := List.mem_map.mp listed
    exact Entry.tells_line event.exact_fields written
  have unmarked : ∀ line ∈ (lines reserve time least events).map String.toList, '\n' ∉ line := by
    intro line listed marked
    obtain ⟨text, written, rfl⟩ := List.mem_map.mp listed
    obtain ⟨entry, recorded, written⟩ := List.mem_filterMap.mp written
    exact absurd ((told entry recorded text written).1 _ marked) (by simp [Json.isPrintable_iff])
  have split : (textOf reserve time least events).toList =
      ((lines reserve time least events).map String.toList).flatMap fun line => line ++ ['\n'] := by
    simp [textOf, String.toList_join, List.flatMap_map]
  refine ⟨(lines reserve time least events).map String.toList, ?_, ?_⟩
  · rw [split, Text.pieces_flatMap unmarked]
  · rw [lines]
    exact Entry.forall₂_tells told

/-- Lines of printable characters take one byte for each character, and for each line end. -/
theorem Records.encode_eq {reserve : Text.Reserve} {time : String} {least : Level}
    {events : List Event} {chars : List Char}
    (records : Records reserve time least events chars) :
    Text.Utf8.encode chars = chars.map fun c => UInt8.ofNat c.toNat := by
  obtain ⟨lines, cut, told⟩ := records
  have ascii : ∀ c ∈ chars, c.toNat < 0x80 := by
    intro c inside
    by_cases ends : c = '\n'
    · simp [ends]
    · obtain ⟨piece, listed, within⟩ := Text.mem_pieces inside ends
      rw [cut] at listed
      rcases List.mem_append.mp listed with line | nothing
      · obtain ⟨entry, -, tells⟩ := exists_of_mem_left told.flip line
        have shown := Json.isPrintable_iff.mp (tells.1 c within)
        omega
      · obtain rfl : piece = [] := List.mem_singleton.mp nothing
        cases within
  rw [Text.Utf8.encode, List.map_eq_flatMap]
  refine List.flatMap_congr fun c inside => ?_
  rw [Text.Utf8.encodeChar, if_pos (ascii c inside)]

end Log

end AccessPolicy
