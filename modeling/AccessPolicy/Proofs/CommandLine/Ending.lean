import AccessPolicy.CommandLine.Run
import AccessPolicy.Proofs.Disk
import AccessPolicy.Proofs.Loading
import AccessPolicy.Proofs.Text.Reserve
import Mathlib.Data.List.TakeWhile

/-!
How a job ends, apart from everything that is logged.

The exit code and the output are those of an ending that is found without a log. Logging has a part
in it only through the files that are read after it, and where none of these is the log, it has no
part at all.
-/

namespace AccessPolicy.CommandLine

/-- Lines can be printed. -/
def Printable (reserve : Text.Reserve) (lines : List String) : Prop :=
  ∀ line ∈ lines, reserve.isEncodable (printed line) = true

instance (reserve : Text.Reserve) (lines : List String) : Decidable (Printable reserve lines) :=
  inferInstanceAs (Decidable (∀ line ∈ lines, _))

/-- Lines that can be printed are all shown. -/
theorem Printable.shownLines_eq {reserve : Text.Reserve} {lines : List String}
    (printable : Printable reserve lines) : shownLines reserve lines = lines :=
  List.takeWhile_eq_self_iff.mpr printable

/-- How a job ends: with a failure, with a policy that is right, or with a decision. -/
inductive Ending where
  | failed
  | checked (document : Policy.Document)
  | decided (outcome : Outcome)

namespace Ending

/-- The ending that the result of an evaluation leads to. -/
def ofEvaluation : Except EvaluationError Outcome → Ending
  -- Without a decision there is nothing to report but the failure.
  | .error _ => .failed
  | .ok outcome => .decided outcome

/-- The exit code that an ending is to have. -/
def code : Ending → Nat
  -- A denial is no success.
  | .failed => 1
  | .checked _ => 0
  | .decided outcome => if outcome.isAllowed then 0 else 1

/-- The lines to print at an ending, where the policy has a path. -/
def lines (path : Path) : Ending → List String
  -- Failures are reported on the other stream.
  | .failed => []
  | .checked document => summaryLines path document
  | .decided outcome => decisionLines outcome

/-- The exit code of an ending. -/
def exitCode (reserve : Text.Reserve) (path : Path) (ending : Ending) : Nat :=
  -- A line that cannot be printed is a failure.
  let lines := ending.lines path
  if (shownLines reserve lines).length = lines.length then ending.code else 1

/-- What is printed at an ending. -/
def output (reserve : Text.Reserve) (path : Path) (ending : Ending) : String :=
  -- Lines behind one that cannot be printed are not.
  printedText (shownLines reserve (ending.lines path))

/-- Only an outcome leads to a decision. -/
theorem ofEvaluation_eq_decided_iff {result : Except EvaluationError Outcome} {outcome : Outcome} :
    ofEvaluation result = .decided outcome ↔ result = .ok outcome := by
  cases result <;> simp [ofEvaluation]

/-- An ending whose lines can be printed has the code that it is to have. -/
theorem exitCode_of_printable {reserve : Text.Reserve} {path : Path} {ending : Ending}
    (printable : Printable reserve (ending.lines path)) :
    ending.exitCode reserve path = ending.code := by
  simp only [exitCode, printable.shownLines_eq, if_true]

/-- An ending whose lines can be printed has all of them in its output. -/
theorem output_of_printable {reserve : Text.Reserve} {path : Path} {ending : Ending}
    (printable : Printable reserve (ending.lines path)) :
    ending.output reserve path = printedText (ending.lines path) := by
  rw [output, printable.shownLines_eq]

/-- No evaluation ends with a policy that is right. -/
theorem ofEvaluation_ne_checked {result : Except EvaluationError Outcome}
    {document : Policy.Document} : ofEvaluation result ≠ .checked document := by
  cases result <;> simp [ofEvaluation]

end Ending

namespace Session

/-- Events can be logged in two steps. -/
theorem note_note (session : Session) (events later : List Log.Event) :
    (session.note events).note later = session.note (events ++ later) := by
  obtain ⟨reserve, time, level, logFile, disk, error⟩ := session
  cases logFile with
  | none => simp [note, Log.lines, Log.entries, String.append_assoc]
  | some location =>
    simp [note, Log.lines, Log.entries, Disk.append_append, Text.Utf8.encode]

/-- Logging has no part in what stands for halves of surrogate pairs. -/
theorem reserve_note (session : Session) (events : List Log.Event) :
    (session.note events).reserve = session.reserve := by
  unfold note
  split <;> rfl

/-- A run that has logged events and ends with lines has the code and the output of the ending. -/
theorem finish_ending (session : Session) (events : List Log.Event) (ending : Ending)
    (path : Path) :
    let result := (session.note events).finish ending.code (ending.lines path)
    result.exitCode = ending.exitCode session.reserve path ∧
      result.output = ending.output session.reserve path := by
  rw [finish, reserve_note]
  exact ⟨rfl, rfl⟩

/-- A run that fails has the code of this ending, and no output. -/
theorem fail_ending (session : Session) (message : String) {reserve : Text.Reserve} {path : Path} :
    (session.fail message).exitCode = Ending.failed.exitCode reserve path ∧
      (session.fail message).output = Ending.failed.output reserve path := ⟨rfl, rfl⟩

end Session

namespace Job

variable {reserve : Text.Reserve} {job : Job} {config : Config} {session : Session}
  {disk opened later : Disk} {document : Policy.Document} {request : Request} {outcome : Outcome}

/-- How a job ends whose policy is read from some files, and whose context is read from others. -/
def ending (reserve : Text.Reserve) (job : Job) (config : Config) (opened later : Disk) :
    Ending :=
  match (Policy.Document.load reserve opened job.policy).result, job.request with
  | .error _, _ => .failed
  | .ok document, none => .checked document
  | .ok document, some asked =>
    match job.fileContext reserve asked.resource later with
    | .error _ => .failed
    | .ok given =>
      let context := Context.merge [config.defaultContext, given, job.context]
      .ofEvaluation (document.evaluate { asked with context })

/-- A job gets to the evaluation of a request, with the values of all contexts in a row. -/
structure Reaches (reserve : Text.Reserve) (job : Job) (config : Config) (opened later : Disk)
    (document : Policy.Document) (request : Request) : Prop where
  policy : (Policy.Document.load reserve opened job.policy).result = .ok document
  request : ∃ asked given, job.request = some asked ∧
    job.fileContext reserve asked.resource later = .ok given ∧
    request = { asked with context := Context.merge [config.defaultContext, given, job.context] }

/-- A job that gets to an evaluation ends with the decision, or fails where there is none. -/
theorem Reaches.ending (reaches : job.Reaches reserve config opened later document request) :
    job.ending reserve config opened later = .ofEvaluation (document.evaluate request) := by
  obtain ⟨policy, asked, given, wanted, found, rfl⟩ := reaches
  rw [Job.ending, policy, wanted]
  dsimp only
  rw [found]

/-- A job ends with a decision exactly where it gets to an evaluation that leads to it. -/
theorem ending_eq_decided_iff : job.ending reserve config opened later = .decided outcome ↔
    ∃ document request, job.Reaches reserve config opened later document request ∧
      document.evaluate request = .ok outcome := by
  constructor
  · intro decided
    unfold Job.ending at decided
    split at decided
    · cases decided
    · cases decided
    · rename_i document asked policy wanted
      split at decided
      · cases decided
      · rename_i given found
        exact ⟨document, _, ⟨policy, asked, given, wanted, found, rfl⟩,
          Ending.ofEvaluation_eq_decided_iff.mp decided⟩
  · intro ⟨document, request, reaches, evaluated⟩
    rw [reaches.ending, evaluated]
    rfl

/-- A job ends with a policy that is right exactly where nothing else is asked for. -/
theorem ending_eq_checked_iff : job.ending reserve config opened later = .checked document ↔
    (Policy.Document.load reserve opened job.policy).result = .ok document ∧
      job.request = none := by
  unfold Job.ending
  split
  · rename_i refused
    simp [refused]
  · rename_i accepted unasked
    simp [accepted, unasked]
  · rename_i accepted asked
    refine iff_of_false ?_ (by simp [asked])
    split
    · simp
    · exact Ending.ofEvaluation_ne_checked

/-- The exit code and the output are those of the ending, whatever is logged. -/
theorem proceed_ending (job : Job) (config : Config) (session : Session) :
    let loading := Policy.Document.load session.reserve session.disk job.policy
    let later := (session.note loading.events).disk
    let ending := job.ending session.reserve config session.disk later
    (job.proceed config session).exitCode = ending.exitCode session.reserve job.policy ∧
      (job.proceed config session).output = ending.output session.reserve job.policy := by
  unfold proceed Job.ending
  dsimp only
  cases (Policy.Document.load session.reserve session.disk job.policy).result with
  | error fault => exact Session.fail_ending _ _
  | ok document =>
    cases job.request with
    | none => exact Session.finish_ending session _ (.checked document) job.policy
    | some asked =>
      simp only [decide, Session.reserve_note]
      cases job.fileContext session.reserve asked.resource _ with
      | error fault => exact Session.fail_ending _ _
      | ok given =>
        dsimp only
        cases document.evaluate _ with
        | error error => exact Session.fail_ending _ _
        | ok outcome =>
          rw [Session.note_note]
          exact Session.finish_ending session _ (.decided outcome) job.policy

/-- The context of a job depends on the bytes of its file. -/
theorem fileContext_congr {other : Disk}
    (same : ∀ path ∈ job.contextFile, other.bytes? path = disk.bytes? path) (resource : String) :
    job.fileContext reserve resource other = job.fileContext reserve resource disk := by
  unfold fileContext
  cases named : job.contextFile with
  | none => rfl
  | some path => exact Context.load_congr (same path named) (some resource)

/-- A job gets to the evaluation of a request whatever is written to files that it does not read. -/
theorem Reaches.of_later {other : Disk}
    (reaches : job.Reaches reserve config opened later document request)
    (same : ∀ path ∈ job.contextFile, other.bytes? path = later.bytes? path) :
    job.Reaches reserve config opened other document request where
  policy := reaches.policy
  request := by
    obtain ⟨asked, given, wanted, found, made⟩ := reaches.request
    exact ⟨asked, given, wanted, (fileContext_congr same asked.resource).trans found, made⟩

/-- The ending depends on the bytes of the files that are read, and not on how a job logs. -/
theorem ending_congr {other : Job} {otherConfig : Config} {otherOpened otherLater : Disk}
    (same : { other with config := job.config, logLevel := job.logLevel } = job)
    (shared : otherConfig.defaultContext = config.defaultContext)
    (policy : otherOpened.bytes? job.policy = opened.bytes? job.policy)
    (contextFile : ∀ path ∈ job.contextFile, otherLater.bytes? path = later.bytes? path) :
    other.ending reserve otherConfig otherOpened otherLater =
      job.ending reserve config opened later := by
  rw [← same] at policy contextFile ⊢
  have loading : Policy.Document.load reserve otherOpened other.policy =
      Policy.Document.load reserve opened other.policy :=
    Policy.Document.load_congr policy
  have given : ∀ resource, other.fileContext reserve resource otherLater =
      other.fileContext reserve resource later :=
    fileContext_congr contextFile
  simp only [Job.ending, loading, shared, given]
  rfl

end Job

/-- A path leads to another place than that of the log, if there is a file for the log. -/
def Session.Apart (session : Session) (path : Path) : Prop :=
  ∀ location ∈ session.logFile, session.disk.locate? path ≠ some location

instance (session : Session) (path : Path) : Decidable (session.Apart path) :=
  inferInstanceAs (Decidable (∀ location ∈ session.logFile, _))

namespace Job

variable {reserve : Text.Reserve} {job : Job} {config : Config} {session : Session} {disk : Disk}
  {path : Path} {time : String}

/-- A job starts without a file for the log, or with one that is opened on the disk. -/
theorem start?_cases (started : job.start? reserve config time disk = some session) :
    let level := job.logLevel.getD config.logLevel
    session = ⟨reserve, time, level, none, disk, ""⟩ ∨
      ∃ path opened location, disk.createFile? path = some (opened, location) ∧
        session = ⟨reserve, time, level, some location, opened, ""⟩ := by
  unfold start? at started
  dsimp only at started ⊢
  split at started
  · exact Or.inl (Option.some.inj started).symm
  · rename_i path named
    split at started
    · obtain ⟨⟨opened, location⟩, created, made⟩ := Option.map_eq_some_iff.mp started
      exact Or.inr ⟨path, opened, location, created, made.symm⟩
    · cases started

/-- Where there is a file for the log, starting a job opens it, and otherwise changes no file. -/
theorem opens_of_start? (started : job.start? reserve config time disk = some session) :
    session.logFile = none ∧ session.disk = disk ∨
      ∃ location, session.logFile = some location ∧ disk.Opens session.disk location := by
  rcases start?_cases started with rfl | ⟨path, opened, location, created, rfl⟩
  · exact Or.inl ⟨rfl, rfl⟩
  · exact Or.inr ⟨location, rfl, Disk.opens_of_createFile? created⟩

/-- What stands for halves of surrogate pairs is the same in the whole run. -/
theorem reserve_of_start? (started : job.start? reserve config time disk = some session) :
    session.reserve = reserve := by
  rcases start?_cases started with rfl | ⟨path, opened, location, created, rfl⟩ <;> rfl

/-- Starting a job changes nothing that a path to another place than that of the log leads to. -/
theorem bytes?_of_start? (started : job.start? reserve config time disk = some session)
    (apart : session.Apart path)
    (kept : disk.locate? path = none → session.disk.locate? path = none) :
    session.disk.bytes? path = disk.bytes? path := by
  rcases opens_of_start? started with ⟨-, same⟩ | ⟨location, logged, opens⟩
  · rw [same]
  · exact opens.bytes? (apart location logged) kept

/-- Logging changes nothing that a path to another place than that of the log leads to. -/
theorem bytes?_note (started : job.start? reserve config time disk = some session)
    (apart : session.Apart path) (events : List Log.Event) :
    (session.note events).disk.bytes? path = session.disk.bytes? path := by
  rcases opens_of_start? started with ⟨unlogged, -⟩ | ⟨location, logged, opens⟩
  · simp [Session.note, unlogged]
  · have written : ∃ bytes, (session.note events).disk = session.disk.append location bytes := by
      rw [Session.note, logged]
      exact ⟨_, rfl⟩
    obtain ⟨bytes, written⟩ := written
    rw [written]
    exact Disk.bytes?_append opens.present (apart location logged)

/-- The settings of a job load, and its log opens. -/
structure Starts (reserve : Text.Reserve) (job : Job) (usual : Path) (time : String) (disk : Disk)
    (config : Config) (session : Session) : Prop where
  settings : job.settings reserve usual disk = .ok config
  log : job.start? reserve config time disk = some session

/-- The files that a job reads once its log is open. -/
def inputs (job : Job) : List Path := job.policy :: job.contextFile.toList

/-- The context file of a job is one of these files. -/
theorem mem_inputs_of_contextFile (named : path ∈ job.contextFile) : path ∈ job.inputs := by
  rw [Option.mem_def] at named
  simp [inputs, named]

/-- Where the settings of a job load, its log opens, and it is none of the files read behind it. -/
def LogsApart (reserve : Text.Reserve) (job : Job) (usual : Path) (time : String) (disk : Disk) :
    Prop :=
  ∀ config, job.settings reserve usual disk = .ok config →
    ∃ session, job.start? reserve config time disk = some session ∧
      ∀ path ∈ job.inputs, session.Apart path

/-- A job starts in one way at most. -/
theorem Starts.unique {usual : Path} {other : Config} {another : Session}
    (first : job.Starts reserve usual time disk config session)
    (second : job.Starts reserve usual time disk other another) :
    config = other ∧ session = another := by
  have same : config = other := Except.ok.inj (first.settings.symm.trans second.settings)
  subst same
  exact ⟨rfl, Option.some.inj (first.log.symm.trans second.log)⟩

/-- The log of a job that starts is apart where it is so in this start. -/
theorem Starts.logsApart {usual : Path} (starts : job.Starts reserve usual time disk config session)
    (apart : ∀ path ∈ job.inputs, session.Apart path) : job.LogsApart reserve usual time disk := by
  intro other loaded
  have same : config = other := Except.ok.inj (starts.settings.symm.trans loaded)
  subst same
  exact ⟨session, starts.log, apart⟩

/-- Logging changes nothing in the context file of a job whose log is apart from it. -/
theorem Starts.bytes?_contextFile {usual : Path}
    (starts : job.Starts reserve usual time disk config session)
    (apart : ∀ path ∈ job.inputs, session.Apart path) (events : List Log.Event) :
    ∀ path ∈ job.contextFile,
      (session.note events).disk.bytes? path = session.disk.bytes? path := by
  intro path named
  exact bytes?_note starts.log (apart path (mem_inputs_of_contextFile named)) events

/-- A job that starts proceeds with its log. -/
theorem Starts.run {usual : Path} (starts : job.Starts reserve usual time disk config session) :
    job.run reserve usual time disk = job.proceed config session := by
  simp only [Job.run, starts.settings, starts.log]

/-- A job whose log is apart from the files that it reads ends as if nothing were logged. -/
theorem Starts.run_ending {usual : Path}
    (starts : job.Starts reserve usual time disk config session)
    (apart : ∀ path ∈ job.inputs, session.Apart path) :
    let ending := job.ending reserve config session.disk session.disk
    (job.run reserve usual time disk).exitCode = ending.exitCode reserve job.policy ∧
      (job.run reserve usual time disk).output = ending.output reserve job.policy := by
  have unseen : job.ending reserve config session.disk
      (session.note (Policy.Document.load reserve session.disk job.policy).events).disk =
        job.ending reserve config session.disk session.disk :=
    ending_congr rfl rfl rfl (starts.bytes?_contextFile apart _)
  have same := reserve_of_start? starts.log
  rw [starts.run, ← unseen, ← same]
  exact proceed_ending job config session

end Job

end AccessPolicy.CommandLine
