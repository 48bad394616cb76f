import AccessPolicy.CommandLine.Help
import AccessPolicy.CommandLine.Job
import AccessPolicy.Evaluation
import AccessPolicy.Loading
import AccessPolicy.Log.Entry
import AccessPolicy.Text.Terminal

/-! Runs of the command: what it prints, what it logs, and how it ends. -/

namespace AccessPolicy.CommandLine

/-- How a run ends, what it writes to both of its streams, and the files it leaves behind. -/
structure Result where
  exitCode : Nat
  output : String
  error : String
  disk : Disk
  deriving Repr, DecidableEq

/-- The text that reports a failure. -/
def failureText (reserve : Text.Reserve) (message : String) : String :=
  -- A cross marks failures, and texts from files must not steer the terminal.
  reserve.escaped (Text.withoutSequences ("✗ " ++ message ++ "\n"))

/-- The lines that report a policy without mistakes. -/
def summaryLines (path : Path) (document : Policy.Document) : List String :=
  -- Documents without a name and those with an empty one look the same.
  let name := (filled? document.id).toList.map fun id => "  Id: " ++ id
  let count := document.statements.length
  let noun := if count = 1 then " statement" else " statements"
  ["✓ Policy valid: " ++ path.text, "  Version: " ++ document.version] ++ name
    ++ ["  " ++ Number.natText count ++ noun ++ " defined"]

/-- The lines that report a decision. -/
def decisionLines (outcome : Outcome) : List String :=
  -- Statements without an identifier cannot be named.
  let detail :=
    if !outcome.sids.isEmpty then ["  Deciding statements: " ++ Text.joined ", " outcome.sids]
    else if outcome.decision = .implicitDeny then ["  No statement applies to the request"]
    else []
  outcome.decision.name :: detail

/-- A line as it is printed, with its end. -/
def printed (line : String) : String :=
  -- Texts from files must not steer the terminal.
  Text.withoutSequences (line ++ "\n")

/-- The lines that are printed before one that has no encoding. -/
def shownLines (reserve : Text.Reserve) (lines : List String) : List String :=
  -- Such a line breaks the run off, and nothing of it is printed.
  lines.takeWhile fun line => reserve.isEncodable (printed line)

/-- What lines look like that are printed one after the other. -/
def printedText (lines : List String) : String :=
  -- Texts from files may have line ends of their own.
  String.join (lines.map printed)

/-- A run in which events are logged, to a file or else to the error stream. -/
structure Session where
  reserve : Text.Reserve
  time : String
  level : Log.Level
  logFile : Option Location
  disk : Disk
  error : String
  deriving Repr, DecidableEq

namespace Session

/-- Logs events. -/
def note (session : Session) (events : List Log.Event) : Session :=
  -- Every line has an end.
  let lines := Log.lines session.reserve session.time session.level events
  let text := String.join (lines.map fun line => line ++ "\n")
  match session.logFile with
  | none => { session with error := session.error ++ text }
  | some location =>
    { session with disk := session.disk.append location (Text.Utf8.encode text.toList) }

/-- Ends a run with lines that are printed. -/
def finish (session : Session) (exitCode : Nat) (lines : List String) : Result :=
  -- A run that is broken off is a failure, whatever it has found out.
  let shown := shownLines session.reserve lines
  ⟨if shown.length = lines.length then exitCode else 1, printedText shown, session.error,
    session.disk⟩

/-- Ends a run with the report of a failure. -/
def fail (session : Session) (message : String) : Result :=
  -- Failures are reported behind what was logged.
  ⟨1, "", session.error ++ failureText session.reserve message, session.disk⟩

end Session

namespace Job

/-- The settings for a job, from the file that it names, or else the usual one if it is there. -/
def settings (reserve : Text.Reserve) (job : Job) (usual : Path) (disk : Disk) :
    Except LoadFault Config :=
  -- A file that is named has to be there.
  match job.config with
  | some path => Config.load reserve disk path
  | none =>
    if (disk.bytes? usual).isSome || disk.isFolder usual then Config.load reserve disk usual
    else .ok Config.default

/-- Starts the run of a job, which opens the file for the log. -/
def start? (reserve : Text.Reserve) (job : Job) (config : Config) (time : String) (disk : Disk) :
    Option Session :=
  -- The level of the job replaces that of the settings.
  let level := job.logLevel.getD config.logLevel
  match config.logFile with
  | none => some ⟨reserve, time, level, none, disk, ""⟩
  | some path =>
    if path.isUsable reserve then
      (disk.createFile? path).map fun (disk, location) =>
        ⟨reserve, time, level, some location, disk, ""⟩
    else none

/-- The context in the file that a job names. -/
def fileContext (reserve : Text.Reserve) (job : Job) (resource : String) (disk : Disk) :
    Except LoadFault Context :=
  -- Without a file there is none.
  match job.contextFile with
  | none => .ok Context.empty
  | some path => Context.load reserve disk path (some resource)

/-- The wording of a failure to load the policy of a job. -/
def policyFailure (job : Job) : LoadFault → String
  -- Faults of the document are reported with the path of its file.
  | .policy rejection =>
    "Invalid policy " ++ job.policy.text ++ ": " ++ rejection.report.message
  | fault => fault.message

/-- Evaluates the request of a job. -/
def decide (job : Job) (config : Config) (document : Policy.Document) (request : Request)
    (session : Session) : Result :=
  -- Values from the settings come first, those from the arguments last.
  match job.fileContext session.reserve request.resource session.disk with
  | .error fault => session.fail fault.message
  | .ok fileContext =>
    let full :=
      { request with context := Context.merge [config.defaultContext, fileContext, job.context] }
    let noted := session.note (document.evaluationEvents full)
    match document.evaluate full with
    | .error error => noted.fail ("Evaluation failed: " ++ error.message)
    | .ok outcome => noted.finish (if outcome.isAllowed then 0 else 1) (decisionLines outcome)

/-- Runs a job whose log is open. -/
def proceed (job : Job) (config : Config) (session : Session) : Result :=
  -- Without a request the policy is only checked.
  let loading := Policy.Document.load session.reserve session.disk job.policy
  let noted := session.note loading.events
  match loading.result with
  | .error fault => noted.fail (job.policyFailure fault)
  | .ok document =>
    match job.request with
    | none => noted.finish 0 (summaryLines job.policy document)
    | some request => job.decide config document request noted

/-- Runs a job. -/
def run (reserve : Text.Reserve) (job : Job) (usual : Path) (time : String) (disk : Disk) :
    Result :=
  -- The settings tell where the log goes, so nothing is logged before they are known.
  match job.settings reserve usual disk with
  | .error fault => ⟨1, "", failureText reserve fault.message, disk⟩
  | .ok config =>
    match job.start? reserve config time disk with
    | none => ⟨1, "", failureText reserve "Could not open the log file", disk⟩
    | some session => job.proceed config session

end Job

/-- The version of the command. -/
def versionText : String := "iam-policy-eval 0.1.0\n"

/--
Runs the command with arguments, at a time and with a usual place for the settings.

In texts from files, characters of the reserve stand for halves of surrogate pairs.
-/
def run (reserve : Text.Reserve) (usual : Path) (time : String) (disk : Disk)
    (words : List String) : Result :=
  -- Mistakes in the arguments end the run before any file is read.
  match Order.of disk words with
  | .error fault => ⟨2, "", Text.withoutSequences fault.report, disk⟩
  | .ok .help => ⟨0, helpText, "", disk⟩
  | .ok .version => ⟨0, versionText, "", disk⟩
  | .ok (.work job) => job.run reserve usual time disk

end AccessPolicy.CommandLine
