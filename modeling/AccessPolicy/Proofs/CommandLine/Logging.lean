import AccessPolicy.Proofs.CommandLine.Ending
import AccessPolicy.Proofs.CommandLine.Usage

/-!
Calls that differ in how they log alone print the same and end with the same exit code.

The level, the file for the log and the options for both decide what is logged, and where. They can
be seen in nothing else, unless opening the log changes where the path of an input leads.
-/

namespace AccessPolicy.CommandLine

/-- When, where and with what the command is called. -/
structure Call where
  time : String
  disk : Disk
  words : List String
  deriving Repr, DecidableEq

/-- How a call ends, with a usual place for the settings. -/
def Call.result (reserve : Text.Reserve) (call : Call) (usual : Path) : Result :=
  run reserve usual call.time call.disk call.words

/-- A call that asks for a job ends as the job does. -/
theorem Call.result_of_work {reserve : Text.Reserve} {call : Call} {usual : Path} {job : Job}
    (asked : Order.of call.disk call.words = .ok (.work job)) :
    call.result reserve usual = job.run reserve usual call.time call.disk := by
  rw [Call.result, run, asked]

/--
The log of a call has no part in what the call reads.

The options are right one by one. The log opens and is none of the files that are read behind it,
and a path to one of these that leads nowhere does not lead somewhere once the log is open.
-/
structure Call.LogUnseen (reserve : Text.Reserve) (call : Call) (usual : Path)
    (arguments : Arguments) : Prop where
  read : Arguments.of call.words = .ok arguments
  faultless : Order.faultIn? call.disk arguments = none
  apart : ∀ job, Order.jobOf arguments = .ok job → job.LogsApart reserve usual call.time call.disk
  kept : ∀ job config session, Order.jobOf arguments = .ok job →
    job.Starts reserve usual call.time call.disk config session → ∀ path ∈ job.inputs,
      call.disk.locate? path = none → session.disk.locate? path = none

/--
Two calls differ at most in how they log.

Their options are the same, but for the level and the file with the settings. Their settings have
the same shared context, or neither can be loaded, and the other files that they read are the same.
-/
structure LogsDiffer (reserve : Text.Reserve) (usual : Path) (first second : Call)
    (arguments others : Arguments) : Prop where
  options : ∀ flag, flag ≠ .config → flag ≠ .logLevel → others.values flag = arguments.values flag
  shared : ∀ job another, Order.jobOf arguments = .ok job → Order.jobOf others = .ok another →
    (another.settings reserve usual second.disk).toOption.map Config.defaultContext =
      (job.settings reserve usual first.disk).toOption.map Config.defaultContext
  inputs : ∀ job, Order.jobOf arguments = .ok job → ∀ path ∈ job.inputs,
    second.disk.bytes? path = first.disk.bytes? path

/-- The log of a call is unseen where this is so for the one job and the one way to start it. -/
theorem Call.LogUnseen.of_starts {reserve : Text.Reserve} {call : Call} {usual : Path}
    {arguments : Arguments} {job : Job} {config : Config} {session : Session}
    (read : Arguments.of call.words = .ok arguments)
    (faultless : Order.faultIn? call.disk arguments = none)
    (asked : Order.jobOf arguments = .ok job)
    (starts : job.Starts reserve usual call.time call.disk config session)
    (apart : ∀ path ∈ job.inputs, session.Apart path)
    (kept : ∀ path ∈ job.inputs, call.disk.locate? path = none → session.disk.locate? path = none) :
    call.LogUnseen reserve usual arguments where
  read := read
  faultless := faultless
  apart other made := by
    rw [asked] at made
    cases made
    exact starts.logsApart apart
  kept other otherConfig otherSession made starting := by
    rw [asked] at made
    cases made
    obtain ⟨rfl, rfl⟩ := starts.unique starting
    exact kept

/-- Options that are the same but for settings and level lead to jobs that are so, or to none. -/
theorem Order.jobOf_congr {arguments others : Arguments}
    (same : ∀ flag, flag ≠ .config → flag ≠ .logLevel →
      others.values flag = arguments.values flag) :
    Order.jobOf others = (Order.jobOf arguments).map fun job => { job with
      config := (others.value? .config).map Path.ofText
      logLevel := (others.value? .logLevel).bind Order.levelOf? } := by
  have drafts : ∀ context, draft others context = draft arguments context := by
    intro context
    simp only [draft, Arguments.value?, same, ne_eq, reduceCtorEq, not_false_eq_true]
  unfold jobOf
  rw [same .policy (by simp) (by simp), same .context (by simp) (by simp)]
  simp only [drafts, Arguments.value?, same .contextFile (by simp) (by simp)]
  split
  · rfl
  · rfl
  · cases Context.ofPairs (arguments.values .context) with
    | error fault => rfl
    | ok context =>
      cases requested : (draft arguments context).request? with
      | error fault =>
        simp [mapError_ok, mapError_error, Bind.bind, Except.bind, Except.map, requested]
      | ok request =>
        simp [mapError_ok, Bind.bind, Except.bind, Except.map, requested, Pure.pure, Except.pure]

namespace Job

variable {reserve : Text.Reserve} {job another : Job} {config otherConfig : Config}
  {session otherSession : Session} {usual : Path} {time otherTime : String}
  {disk otherDisk : Disk}

/-- Jobs that differ in how they log alone end alike where they read the same files. -/
theorem Starts.run_congr (starts : job.Starts reserve usual time disk config session)
    (others : another.Starts reserve usual otherTime otherDisk otherConfig otherSession)
    (same : { another with config := job.config, logLevel := job.logLevel } = job)
    (shared : otherConfig.defaultContext = config.defaultContext)
    (apart : ∀ path ∈ job.inputs, session.Apart path)
    (otherApart : ∀ path ∈ another.inputs, otherSession.Apart path)
    (bytes : ∀ path ∈ job.inputs, otherSession.disk.bytes? path = session.disk.bytes? path) :
    (another.run reserve usual otherTime otherDisk).exitCode =
        (job.run reserve usual time disk).exitCode ∧
      (another.run reserve usual otherTime otherDisk).output =
        (job.run reserve usual time disk).output := by
  have alike : another.ending reserve otherConfig otherSession.disk otherSession.disk =
      job.ending reserve config session.disk session.disk := by
    have policy := bytes job.policy (List.mem_cons_self ..)
    exact ending_congr same shared policy fun path named =>
      bytes path (mem_inputs_of_contextFile named)
  have policy : another.policy = job.policy := by rw [← same]
  obtain ⟨code, output⟩ := starts.run_ending apart
  obtain ⟨otherCode, otherOutput⟩ := others.run_ending otherApart
  rw [code, output, otherCode, otherOutput, alike, policy]
  exact ⟨rfl, rfl⟩

end Job

/-- The jobs of such calls end alike, where the log is unseen in both. -/
theorem LogsDiffer.run_eq {reserve : Text.Reserve} {usual : Path} {first second : Call}
    {arguments others : Arguments} {job another : Job}
    (unseen : first.LogUnseen reserve usual arguments)
    (otherUnseen : second.LogUnseen reserve usual others)
    (differ : LogsDiffer reserve usual first second arguments others)
    (asked : Order.jobOf arguments = .ok job) (otherAsked : Order.jobOf others = .ok another)
    (same : { another with config := job.config, logLevel := job.logLevel } = job) :
    (another.run reserve usual second.time second.disk).exitCode =
        (job.run reserve usual first.time first.disk).exitCode ∧
      (another.run reserve usual second.time second.disk).output =
        (job.run reserve usual first.time first.disk).output := by
  have shared := differ.shared job another asked otherAsked
  cases settings : job.settings reserve usual first.disk with
  | error fault =>
    rw [settings] at shared
    obtain ⟨otherFault, refused⟩ := exists_error_of_toOption (Option.map_eq_none_iff.mp shared)
    simp only [Job.run, settings, refused, and_self]
  | ok config =>
    rw [settings] at shared
    obtain ⟨otherConfig, loaded, alike⟩ := Option.map_eq_some_iff.mp shared
    have otherSettings := eq_ok_of_toOption loaded
    obtain ⟨session, log, apart⟩ := unseen.apart job asked config settings
    obtain ⟨otherSession, otherLog, otherApart⟩ :=
      otherUnseen.apart another otherAsked otherConfig otherSettings
    have starts : job.Starts reserve usual first.time first.disk config session := ⟨settings, log⟩
    have others := Job.Starts.mk otherSettings otherLog
    have inputs : another.inputs = job.inputs := by rw [← same]; rfl
    refine starts.run_congr others same alike apart otherApart fun path inside => ?_
    have otherInside : path ∈ another.inputs := inputs ▸ inside
    have kept := unseen.kept job config session asked starts path inside
    have otherKept :=
      otherUnseen.kept another otherConfig otherSession otherAsked others path otherInside
    rw [Job.bytes?_of_start? log (apart path inside) kept,
      Job.bytes?_of_start? otherLog (otherApart path otherInside) otherKept]
    exact differ.inputs job asked path inside

/-- Calls that differ at most in how they log, where this is unseen, end alike. -/
theorem LogsDiffer.result_eq {reserve : Text.Reserve} {usual : Path} {first second : Call}
    {arguments others : Arguments} (unseen : first.LogUnseen reserve usual arguments)
    (otherUnseen : second.LogUnseen reserve usual others)
    (differ : LogsDiffer reserve usual first second arguments others) :
    (second.result reserve usual).exitCode = (first.result reserve usual).exitCode ∧
      (second.result reserve usual).output = (first.result reserve usual).output := by
  have help : others.has .help = arguments.has .help := by
    rw [Arguments.has_eq, Arguments.has_eq, differ.options .help (by simp) (by simp)]
  have version : others.has .version = arguments.has .version := by
    rw [Arguments.has_eq, Arguments.has_eq, differ.options .version (by simp) (by simp)]
  have order := Order.of_eq unseen.read unseen.faultless
  have otherOrder := Order.of_eq otherUnseen.read otherUnseen.faultless
  rw [help, version, Order.jobOf_congr differ.options] at otherOrder
  unfold Call.result run
  rw [order, otherOrder]
  by_cases helped : arguments.has .help = true
  · simp [helped]
  by_cases versioned : arguments.has .version = true
  · simp [helped, versioned]
  simp only [if_neg helped, if_neg versioned]
  cases asked : Order.jobOf arguments with
  | error fault => exact ⟨rfl, rfl⟩
  | ok job =>
    have otherAsked := Order.jobOf_congr differ.options
    rw [asked] at otherAsked
    exact differ.run_eq unseen otherUnseen asked otherAsked rfl

end AccessPolicy.CommandLine
