import AccessPolicy.Proofs.CommandLine.Ending
import AccessPolicy.Proofs.Log.Line

/-!
What a job writes to its log: one line for each event, whatever the texts in it.

The log stands in a file or else at the front of the error stream. Only the report of a failure
stands behind it there.
-/

namespace AccessPolicy.CommandLine

/-- A text that may stand behind the log. -/
def IsReport (reserve : Text.Reserve) (text : String) : Prop :=
  -- Failures are all that is reported there.
  text = "" ∨ ∃ message, text = failureText reserve message

namespace Session

/-- A run ends with what was logged, and with the report of a failure at most. -/
def EndsIn (session : Session) (result : Result) : Prop :=
  -- On the disk nothing is left behind but the log.
  result.disk = session.disk ∧
    ∃ report, IsReport session.reserve report ∧ result.error = session.error ++ report

/-- A run that ends with lines reports nothing. -/
theorem endsIn_finish (session : Session) (exitCode : Nat) (lines : List String) :
    session.EndsIn (session.finish exitCode lines) :=
  ⟨rfl, "", Or.inl rfl, String.append_empty.symm⟩

/-- A run that fails reports this. -/
theorem endsIn_fail (session : Session) (message : String) :
    session.EndsIn (session.fail message) :=
  ⟨rfl, _, Or.inr ⟨message, rfl⟩, rfl⟩

end Session

namespace Job

variable {reserve : Text.Reserve} {job : Job} {config : Config} {session : Session} {usual : Path}
  {time : String} {disk : Disk}

/-- The events of the evaluation that a job asks for, if it gets there. -/
def decisionEvents (reserve : Text.Reserve) (job : Job) (config : Config)
    (document : Policy.Document) (request : Request) (disk : Disk) : List Log.Event :=
  -- A context that cannot be read ends the run before that.
  match job.fileContext reserve request.resource disk with
  | .error _ => []
  | .ok given =>
    let context := Context.merge [config.defaultContext, given, job.context]
    document.evaluationEvents { request with context }

/-- The events of a job whose log is open. -/
def events (job : Job) (config : Config) (session : Session) : List Log.Event :=
  -- Those of the policy come first, and are the only ones where nothing else is asked for.
  let loading := Policy.Document.load session.reserve session.disk job.policy
  loading.events ++ match loading.result, job.request with
    | .ok document, some request =>
      job.decisionEvents session.reserve config document request
        (session.note loading.events).disk
    | _, _ => []

/-- The evaluation that a job asks for ends with its events behind those before it. -/
theorem endsIn_decide (job : Job) (config : Config) (document : Policy.Document)
    (request : Request) (session : Session) (before : List Log.Event) :
    let noted := session.note before
    let later := job.decisionEvents session.reserve config document request noted.disk
    (session.note (before ++ later)).EndsIn (job.decide config document request noted) := by
  unfold decide decisionEvents
  simp only [Session.reserve_note]
  cases job.fileContext session.reserve request.resource (session.note before).disk with
  | error fault =>
    rw [List.append_nil]
    exact Session.endsIn_fail _ _
  | ok given =>
    rw [← Session.note_note]
    dsimp only
    split
    · exact Session.endsIn_fail _ _
    · exact Session.endsIn_finish _ _ _

/-- A job ends with its events. -/
theorem endsIn_proceed (job : Job) (config : Config) (session : Session) :
    (session.note (job.events config session)).EndsIn (job.proceed config session) := by
  unfold proceed events
  dsimp only
  cases (Policy.Document.load session.reserve session.disk job.policy).result with
  | error fault =>
    rw [List.append_nil]
    exact Session.endsIn_fail _ _
  | ok document =>
    cases job.request with
    | none =>
      rw [List.append_nil]
      exact Session.endsIn_finish _ _ _
    | some request => exact endsIn_decide job config document request session _

/-- What a session starts with: a time, and a log that keeps what was in it. -/
theorem start?_spec (started : job.start? reserve config time disk = some session) :
    session.time = time ∧ session.error = "" ∧ ∀ location, session.logFile = some location →
      session.disk.content? location = some ((disk.content? location).getD []) := by
  rcases start?_cases started with rfl | ⟨path, opened, location, created, rfl⟩
  · exact ⟨rfl, rfl, nofun⟩
  · refine ⟨rfl, rfl, fun place logged => ?_⟩
    cases logged
    exact Disk.content?_of_createFile? created

end Job

/--
Every entry of the log is one line, whatever the texts in it, and tells what the entry does.

All that keeps an entry from being written are numbers of thousands of digits. A job that starts
writes one such line for each of its events that matter enough, and no more. They stand behind what
was in the file for the log, or else before the report of a failure.
-/
theorem logged_lines_decode :
    (∀ (reserve : Text.Reserve) (time level source : String) (exception : Option String)
      (value : Json) (values : List Json) (message : Log.Message),
      Log.Message.of reserve value values = .ok message →
      (∀ members, value = .object members → ∀ member ∈ members, member.2.Exact) →
      (∀ member ∈ message.told, member.2.isWritable = true) →
        let entry : Log.Entry := ⟨time, level, source, message, exception⟩
        ∃ line, entry.line? reserve = some line ∧ Log.Tells reserve entry.told line.toList) ∧
    ∀ (reserve : Text.Reserve) (job : Job) (usual : Path) (time : String) (disk : Disk)
      (config : Config) (session : Session),
      job.Starts reserve usual time disk config session →
        ((∀ event ∈ job.events config session, ∀ number ∈ event.numbers,
            Number.isShort number = true) →
          ∀ entry ∈ Log.entries time session.level (job.events config session),
            entry.isWritable = true) ∧
        ∃ text report : String, IsReport reserve report ∧
          Log.Records reserve time session.level (job.events config session) text.toList ∧
          (session.logFile = none →
            (job.run reserve usual time disk).error = text ++ report) ∧
          ∀ location, session.logFile = some location →
            (job.run reserve usual time disk).error = report ∧
            (job.run reserve usual time disk).disk.content? location =
              some ((disk.content? location).getD [] ++
                text.toList.map fun c => UInt8.ofNat c.toNat) := by
  constructor
  · intro reserve time level source exception value values message made each short
    dsimp only
    obtain ⟨line, written⟩ :=
      Log.Entry.exists_line reserve ⟨time, level, source, message, exception⟩ short
    exact ⟨line, written, Log.Entry.tells_line (Log.Message.exact_told made each) written⟩
  · intro reserve job usual time disk config session starts
    refine ⟨fun short => Log.isWritable_of_mem_entries short, ?_⟩
    obtain ⟨rfl, silent, kept⟩ := Job.start?_spec starts.log
    obtain rfl := Job.reserve_of_start? starts.log
    obtain ⟨left, report, allowed, written⟩ := job.endsIn_proceed config session
    rw [Session.reserve_note] at allowed
    have records := Log.records_textOf session.reserve session.time session.level
      (job.events config session)
    refine ⟨_, report, allowed, records, fun unlogged => ?_, fun location logged => ?_⟩
    · rw [starts.run, written, Session.note, unlogged]
      simp [silent, Log.textOf]
    · rw [starts.run, written, left, Session.note, logged]
      dsimp only
      rw [Disk.content?_append, if_pos rfl, kept location logged, silent, String.empty_append]
      exact ⟨rfl, congrArg _ (congrArg _ records.encode_eq)⟩

/-- Files of a project: a policy that is to break the log, a log with a line in it, and settings. -/
def forgingDisk : Disk where
  start := ["work"]
  folders := [["work"]]
  files := [
    (["work", "policy.json"], Text.Utf8.encode (Json.write .first (.object [
      ("Version", .string "2012-10-17"),
      ("Statement", .object [("Sid", .string "Read\"\x7d\n\x7b\"level\": \"INFO\"\x7d"),
        ("Effect", .string "Allow"), ("Action", .string "*"), ("Resource", .string "*")])]))),
    (["work", "run.jsonl"], Text.Utf8.encode "Started\n".toList),
    (["work", "config.json"], Text.Utf8.encode (Json.write .first (.object [
      ("logging", .object [("log_file", .string "run.jsonl")])])))]

/-- A job for this project whose request is to break the log as well. -/
def forgingJob : Job where
  policy := ⟨0, ["policy.json"]⟩
  request := some ⟨"s3:Get\r\nObject", "arn:aws:s3:::b/😀", none, Context.empty⟩
  context := Context.empty
  contextFile := none
  config := some ⟨0, ["config.json"]⟩
  logLevel := some .debug

/-- The settings of the project. -/
def forgingConfig : Config := ⟨.warning, some ⟨0, ["run.jsonl"]⟩, Context.empty⟩

/-- The run of the job with its log open. -/
def forgingSession : Session :=
  ⟨.first, "noon", .debug, some ["work", "run.jsonl"], forgingDisk, ""⟩

/-- What is logged in this run. -/
def forgingEvents : List Log.Event :=
  let sid := "Read\"\x7d\n\x7b\"level\": \"INFO\"\x7d"
  [.policyParsed "2012-10-17" none 1, .policyLoaded "policy.json" 1,
    .statementApplicable sid .allow,
    .policyDecision "Allow" [sid] [0] "s3:Get\r\nObject" "arn:aws:s3:::b/😀" none]

/-- Members of a message that replaces the level of its entry. -/
def forgingMembers : List (String × Json) :=
  [("level", .string "\"INFO\"\n"), ("who", .array [.string "😀\\", .int (-7), .null])]

/-- The line of an entry with this message. -/
def forgingLine : String :=
  "\x7b\"time\": \"noon\", \"level\": \"\\\"INFO\\\"\\n\", \"logger\": \"app\", " ++
    "\"who\": [\"\\ud83d\\ude00\\\\\", -7, null], " ++
    "\"exception\": \"ValueError: a\\nb\"\x7d"

/--
Neither the message of an entry nor a policy and a request can break the log.

Texts in all of them have line ends and quotation marks in them.
-/
theorem logged_lines_decode_forging :
    Log.Tells .first
      ([("time", .string "noon"), ("level", .string "DEBUG"), ("logger", .string "app")] ++
        forgingMembers ++ [("exception", .string "ValueError: a\nb")])
      forgingLine.toList ∧
    forgingJob.Starts .first ⟨1, ["etc"]⟩ "noon" forgingDisk forgingConfig forgingSession ∧
    (∀ entry ∈ Log.entries "noon" .debug forgingEvents, entry.isWritable = true) ∧
    ∃ text report : String, IsReport .first report ∧
      Log.Records .first "noon" .debug forgingEvents text.toList ∧
      (forgingJob.run .first ⟨1, ["etc"]⟩ "noon" forgingDisk).error = report ∧
      (forgingJob.run .first ⟨1, ["etc"]⟩ "noon" forgingDisk).disk.content?
        ["work", "run.jsonl"] = some (Text.Utf8.encode "Started\n".toList ++
          text.toList.map fun c => UInt8.ofNat c.toNat) := by
  have starts :
      forgingJob.Starts .first ⟨1, ["etc"]⟩ "noon" forgingDisk forgingConfig forgingSession :=
    ⟨eq_ok_of_toOption (by decide +kernel), rfl⟩
  have events : forgingJob.events forgingConfig forgingSession = forgingEvents := by
    decide +kernel
  obtain ⟨writable, text, report, allowed, records, -, logged⟩ :=
    logged_lines_decode.2 _ _ _ _ _ _ _ starts
  obtain ⟨error, content⟩ := logged _ rfl
  have before : forgingDisk.content? ["work", "run.jsonl"] =
      some (Text.Utf8.encode "Started\n".toList) := rfl
  rw [events] at records writable
  rw [before, Option.getD_some] at content
  refine ⟨?_, starts, writable (by decide), text, report, allowed, records, error,
    content⟩
  have exact : ∀ member ∈ forgingMembers, member.2.Exact := by
    simp [forgingMembers, Json.Exact.string, Json.Exact.array, Json.Exact.int, Json.Exact.null]
  have written : Log.Entry.line? .first
      ⟨"noon", "DEBUG", "app", .named forgingMembers, some "ValueError: a\nb"⟩ =
        some forgingLine := by
    decide +kernel
  obtain ⟨line, same, tells⟩ := logged_lines_decode.1 .first "noon" "DEBUG" "app"
    (some "ValueError: a\nb") (.object forgingMembers) [] (.named forgingMembers) rfl
    (fun members same => Json.object.inj same ▸ exact) (by decide)
  rw [written] at same
  cases same
  exact tells

/-- The two halves of a surrogate pair, one behind the other. -/
def pairHalves : String :=
  String.ofList [Text.Reserve.first.standIn 0xD83D, Text.Reserve.first.standIn 0xDE00]

/--
Not every message comes back from its line, and not every message has a line.

Two numbers can stand for the halves of a surrogate pair, which are read as one character. A number
of thousands of digits cannot be written.
-/
theorem log_line_joins_halves :
    Log.Message.of .first (.string "%c%c") [.int 0xD83D, .int 0xDE00] =
      .ok (.text pairHalves) ∧
    pairHalves ≠ "😀" ∧
    (∃ line, Log.Entry.line? .first ⟨"noon", "INFO", "app", .text pairHalves, none⟩ = some line ∧
      Json.read .first line.toList = .ok (.object [("time", .string "noon"),
        ("level", .string "INFO"), ("logger", .string "app"), ("message", .string "😀")])) ∧
    Log.Entry.line? .first
      ⟨"noon", "INFO", "app", .named [("count", .int (10 ^ 4300))], none⟩ = none := by
  have filled : Log.Template.fill .first "%c%c" [.int 0xD83D, .int 0xDE00] = .ok pairHalves :=
    eq_ok_of_toOption (by decide +kernel)
  have made : Log.Message.of .first (.string "%c%c") [.int 0xD83D, .int 0xDE00] =
      .ok (.text pairHalves) :=
    map_eq_ok_iff.mpr ⟨pairHalves, filled, rfl⟩
  have joined : Text.Reserve.first.joinedText pairHalves = "😀" := by decide +kernel
  have ascii : ∀ text ∈ ["time", "level", "logger", "message", "noon", "INFO", "app"],
      Text.Reserve.first.joinedText text = text := by
    decide
  simp only [List.forall_mem_cons] at ascii
  have exact : (Json.object [("time", .string "noon"), ("level", .string "INFO"),
      ("logger", .string "app"), ("message", .string pairHalves)]).Exact :=
    .object (by decide) (by simp [Json.Exact.string])
  have read := exact.read_write .first rfl
  simp only [Json.joined, Json.putJoined, Json.put, ascii, joined] at read
  obtain ⟨line, written⟩ := Log.Entry.exists_line .first
    ⟨"noon", "INFO", "app", .text pairHalves, none⟩ (List.forall_mem_singleton.mpr rfl)
  have chars := (Log.Entry.line?_eq_some_iff.mp written).2
  refine ⟨made, by decide +kernel, ⟨line, written, ?_⟩, by decide +kernel⟩
  rw [chars]
  exact read

end AccessPolicy.CommandLine
