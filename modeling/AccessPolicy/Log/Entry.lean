import AccessPolicy.Json.Writer
import AccessPolicy.Log.Event
import AccessPolicy.Log.Template

/-! Entries of the log, each written as one line of JSON. -/

namespace AccessPolicy.Log

/-- The names of the levels that have one. -/
def levelNames : List (Int × String) := [
  (0, "NOTSET"), (10, "DEBUG"), (20, "INFO"), (30, "WARNING"), (40, "ERROR"), (50, "CRITICAL")]

/-- The name of a level by its number. -/
def levelName (number : Int) : String :=
  -- Other numbers stand for themselves.
  (levelNames.lookup number).getD ("Level " ++ Number.intText number)

/-- What an entry reports: named values or a text. -/
inductive Message where
  | named (members : List (String × Json))
  | text (text : String)
  deriving Repr

/-- The message of a value, and of further values for the marks in it. -/
def Message.of (reserve : Text.Reserve) (value : Json) (values : List Json) :
    Except Template.Fault Message :=
  -- Without further values a text has no marks.
  match value with
  | .object members => .ok (.named members)
  | value => do
    let plain := Template.plainText reserve (← Template.writable value)
    if values.isEmpty then return .text plain
    return .text (← Template.fill reserve plain values)

/-- The text of an error of a kind. -/
def errorText (kind text : String) : String :=
  -- An error without a text is known by its kind alone.
  if text.isEmpty then kind else kind ++ ": " ++ text

/-- An entry of the log. -/
structure Entry where
  time : String
  level : String
  source : String
  message : Message
  exception : Option String
  deriving Repr

namespace Entry

/-- Puts the members of a message behind others, or into the places of others with their names. -/
def putAll (members news : List (String × Json)) : List (String × Json) :=
  -- Of several members with one name the last counts.
  news.foldl (fun all member => Json.put member.1 member.2 all) members

/-- The named values of an entry. -/
def members (entry : Entry) : List (String × Json) :=
  -- A message may replace what every entry starts with.
  let start := [("time", .string entry.time), ("level", .string entry.level),
    ("logger", .string entry.source)]
  let told := match entry.message with
    | .named news => putAll start news
    | .text text => Json.put "message" (.string text) start
  match entry.exception with
  | none => told
  | some text => Json.put "exception" (.string text) told

/-- Whether an entry can be written. -/
def isWritable (entry : Entry) : Bool :=
  -- Only whole numbers can be too long for that.
  (Json.object entry.members).isWritable

/-- The line of an entry, without its end, if the entry can be written. -/
def line? (reserve : Text.Reserve) (entry : Entry) : Option String :=
  -- Line breaks in the values are escaped.
  if entry.isWritable then some ((Json.object entry.members).text reserve) else none

/-- The name of the whole program, under which all entries are filed. -/
def programName : String := "iam-policy-eval"

/-- The entry of an event at a time. -/
def ofEvent (time : String) (event : Event) : Entry :=
  -- The source names the part of the program behind the program itself.
  ⟨time, event.level.name, programName ++ "." ++ event.component, .named event.fields, none⟩

end Entry

/-- The entries of the events that matter at least as much as a level. -/
def entries (time : String) (least : Level) (events : List Event) : List Entry :=
  -- The order of the events stays.
  (events.filter fun event => least.number ≤ event.level.number).map (Entry.ofEvent time)

/-- The lines of these entries. -/
def lines (reserve : Text.Reserve) (time : String) (least : Level) (events : List Event) :
    List String :=
  -- An entry that cannot be written takes no line.
  (entries time least events).filterMap (Entry.line? reserve)

end AccessPolicy.Log
