import AccessPolicy.Proofs.CommandLine.Ending
import AccessPolicy.Proofs.CommandLine.Usage
import AccessPolicy.Proofs.Text.Terminal

/-!
The exit code of the command: mistakes in the arguments, success, and everything else.

The three are told apart by what the arguments are and by what can be loaded and decided, without
the order in which the command looks at these things.
-/

namespace AccessPolicy.CommandLine

namespace Job

/-- A job without a request finds a policy that is right. -/
def Checks (reserve : Text.Reserve) (job : Job) (usual : Path) (time : String) (disk : Disk)
    (document : Policy.Document) : Prop :=
  ∃ config session, job.Starts reserve usual time disk config session ∧
    (Policy.Document.load reserve session.disk job.policy).result = .ok document ∧
      job.request = none

/-- The evaluation of the request of a job has a result. -/
def Decides (reserve : Text.Reserve) (job : Job) (usual : Path) (time : String) (disk : Disk)
    (result : Except EvaluationError Outcome) : Prop :=
  ∃ config session, job.Starts reserve usual time disk config session ∧
    ∃ document request, job.Reaches reserve config session.disk session.disk document request ∧
      document.evaluate request = result

/-- A job finds its policy right where there is no request, and allows the request otherwise. -/
def Succeeds (reserve : Text.Reserve) (job : Job) (usual : Path) (time : String) (disk : Disk) :
    Prop :=
  (∃ document, job.Checks reserve usual time disk document) ∨
    ∃ outcome, job.Decides reserve usual time disk (.ok outcome) ∧ outcome.decision = .allow

/-- Something of what a job needs cannot be loaded or parsed, or its request cannot be decided. -/
inductive Fails (reserve : Text.Reserve) (job : Job) (usual : Path) (time : String) (disk : Disk) :
    Prop where
  | settings {fault : LoadFault} (refused : job.settings reserve usual disk = .error fault)
  | policy {config : Config} {session : Session} {fault : LoadFault}
    (starts : job.Starts reserve usual time disk config session)
    (refused : (Policy.Document.load reserve session.disk job.policy).result = .error fault)
  | context {config : Config} {session : Session} {asked : Request} {fault : LoadFault}
    (starts : job.Starts reserve usual time disk config session) (wanted : job.request = some asked)
    (refused : job.fileContext reserve asked.resource session.disk = .error fault)
  | evaluation {error : EvaluationError}
    (undecided : job.Decides reserve usual time disk (.error error))

variable {reserve : Text.Reserve} {job : Job} {config other : Config}
  {session another : Session} {usual : Path} {time : String} {disk : Disk}

/-- What is said of the start of a job is said of the one in which it starts. -/
theorem Starts.exists_iff (starts : job.Starts reserve usual time disk config session)
    {holds : Config → Session → Prop} :
    (∃ config session, job.Starts reserve usual time disk config session ∧ holds config session) ↔
      holds config session := by
  constructor
  · intro ⟨other, another, starting, held⟩
    obtain ⟨rfl, rfl⟩ := starts.unique starting
    exact held
  · intro held
    exact ⟨config, session, starts, held⟩

/-- A job that starts finds its policy right where it ends with that. -/
theorem Starts.checks_iff (starts : job.Starts reserve usual time disk config session)
    {document : Policy.Document} : job.Checks reserve usual time disk document ↔
      job.ending reserve config session.disk session.disk = .checked document := by
  rw [ending_eq_checked_iff]
  exact starts.exists_iff

/-- A job that starts decides where it ends with the decision. -/
theorem Starts.decides_iff (starts : job.Starts reserve usual time disk config session)
    {outcome : Outcome} : job.Decides reserve usual time disk (.ok outcome) ↔
      job.ending reserve config session.disk session.disk = .decided outcome := by
  rw [ending_eq_decided_iff]
  exact starts.exists_iff

/-- A job that cannot load what it needs, or cannot decide, fails. -/
theorem Fails.ending (fails : job.Fails reserve usual time disk)
    (starts : job.Starts reserve usual time disk config session) :
    job.ending reserve config session.disk session.disk = .failed := by
  cases fails with
  | settings refused =>
    rw [starts.settings] at refused
    cases refused
  | policy starting refused =>
    obtain ⟨rfl, rfl⟩ := starts.unique starting
    simp only [Job.ending, refused]
  | context starting wanted refused =>
    obtain ⟨rfl, rfl⟩ := starts.unique starting
    rw [Job.ending, wanted]
    split
    · rfl
    · rename_i unasked
      cases unasked
    · rename_i policy asked
      cases asked
      rw [refused]
  | evaluation undecided =>
    obtain ⟨other, another, starting, document, request, reaches, evaluated⟩ := undecided
    obtain ⟨rfl, rfl⟩ := starts.unique starting
    rw [reaches.ending, evaluated]
    rfl

/--
The run of a job leads to an ending.

It has the exit code and the output of this ending, and the ending tells what the job found out.
-/
structure EndsIn (reserve : Text.Reserve) (job : Job) (usual : Path) (time : String) (disk : Disk)
    (ending : Ending) : Prop where
  exitCode : (job.run reserve usual time disk).exitCode = ending.exitCode reserve job.policy
  output : (job.run reserve usual time disk).output = ending.output reserve job.policy
  checks_iff : ∀ document, job.Checks reserve usual time disk document ↔ ending = .checked document
  decides_iff : ∀ outcome,
    job.Decides reserve usual time disk (.ok outcome) ↔ ending = .decided outcome
  failed : job.Fails reserve usual time disk → ending = .failed

/-- A job does not start where its settings cannot be loaded. -/
theorem not_starts_of_refused {fault : LoadFault}
    (refused : job.settings reserve usual disk = .error fault) :
    ¬ job.Starts reserve usual time disk config session := by
  intro starts
  rw [starts.settings] at refused
  cases refused

/-- A job whose settings cannot be loaded ends in a failure. -/
theorem endsIn_of_refused {fault : LoadFault}
    (refused : job.settings reserve usual disk = .error fault) :
    job.EndsIn reserve usual time disk .failed where
  exitCode := by
    simp only [Job.run, refused]
    rfl
  output := by
    simp only [Job.run, refused]
    rfl
  checks_iff document := by
    refine iff_of_false ?_ (by simp)
    rintro ⟨config, session, starts, -⟩
    exact not_starts_of_refused refused starts
  decides_iff outcome := by
    refine iff_of_false ?_ (by simp)
    rintro ⟨config, session, starts, -⟩
    exact not_starts_of_refused refused starts
  failed _ := rfl

/-- A job that starts, with its log apart from what it reads, ends as if nothing were logged. -/
theorem Starts.endsIn (starts : job.Starts reserve usual time disk config session)
    (apart : ∀ path ∈ job.inputs, session.Apart path) :
    job.EndsIn reserve usual time disk (job.ending reserve config session.disk session.disk) where
  exitCode := (starts.run_ending apart).1
  output := (starts.run_ending apart).2
  checks_iff _ := starts.checks_iff
  decides_iff _ := starts.decides_iff
  failed fails := fails.ending starts

/-- Every job whose log is apart from what it reads leads to an ending. -/
theorem LogsApart.endsIn (apart : job.LogsApart reserve usual time disk) :
    ∃ ending, job.EndsIn reserve usual time disk ending := by
  cases loaded : job.settings reserve usual disk with
  | error fault => exact ⟨.failed, endsIn_of_refused loaded⟩
  | ok config =>
    obtain ⟨session, started, apart⟩ := apart config loaded
    exact ⟨_, Starts.endsIn ⟨loaded, started⟩ apart⟩

end Job

/-- What is printed names a decision at its start. -/
def Names (output : String) (decision : Decision) : Prop :=
  decision.name.toList <+: output.toList

instance (output : String) (decision : Decision) : Decidable (Names output decision) :=
  inferInstanceAs (Decidable (_ <+: _))

/-- The name of a decision is printed as it is, on a line of its own. -/
theorem printed_name (decision : Decision) : printed decision.name = decision.name ++ "\n" := by
  cases decision <;> rfl

/-- The name of a decision can be printed. -/
theorem isEncodable_name (reserve : Text.Reserve) (decision : Decision) :
    reserve.isEncodable (printed decision.name) = true := by
  rw [printed_name]
  cases decision <;> rfl

/-- The report of a decision names this decision and no other. -/
theorem names_output_decided_iff {reserve : Text.Reserve} {path : Path} {outcome : Outcome}
    {decision : Decision} :
    Names ((Ending.decided outcome).output reserve path) decision ↔
      outcome.decision = decision := by
  have shown : ∃ rest, shownLines reserve (decisionLines outcome) = outcome.decision.name :: rest :=
    ⟨_, List.takeWhile_cons_of_pos (isEncodable_name reserve outcome.decision)⟩
  obtain ⟨rest, shown⟩ := shown
  have output : ((Ending.decided outcome).output reserve path).toList =
      outcome.decision.name.toList ++ ('\n' :: (printedText rest).toList) := by
    rw [Ending.output, Ending.lines, shown, printedText, List.map_cons, String.join_cons,
      printed_name, ← printedText]
    simp
  rw [Names, output]
  constructor
  · intro named
    -- No two decisions have names with the same first letter.
    generalize '\n' :: _ = behind at named
    cases found : outcome.decision <;> cases decision <;>
      simp [found, Decision.name, List.cons_prefix_cons] at named ⊢
  · intro same
    rw [← same]
    exact List.prefix_append _ _

/-- An empty output names no decision. -/
theorem not_names_empty {decision : Decision} : ¬ Names "" decision := by
  cases decision <;> simp [Names, Decision.name]

/-- The report of a policy without mistakes names no decision. -/
theorem not_names_output_checked {reserve : Text.Reserve} {path : Path}
    {document : Policy.Document} {decision : Decision} :
    ¬ Names ((Ending.checked document).output reserve path) decision := by
  have plain : Text.escapeChar ∉ "✓ Policy valid: ".toList := by decide
  unfold Ending.output Ending.lines summaryLines shownLines
  simp only [List.append_assoc, List.cons_append, List.takeWhile_cons]
  split
  · rw [Names, printedText, List.map_cons, String.join_cons, String.toList_append, printed,
      String.append_assoc, Text.toList_withoutSequences_append plain]
    intro named
    cases decision <;> simp [Decision.name, List.cons_prefix_cons] at named
  · exact not_names_empty

variable {reserve : Text.Reserve} {usual : Path} {time : String} {disk : Disk}
  {words : List String} {arguments : Arguments}

/-- An ending has the exit code of a success or that of a failure. -/
theorem Ending.exitCode_le_one {reserve : Text.Reserve} {path : Path} {ending : Ending} :
    ending.exitCode reserve path ≤ 1 := by
  have code : ending.code ≤ 1 := by
    cases ending with
    | failed => simp [Ending.code]
    | checked document => simp [Ending.code]
    | decided outcome => cases allowed : outcome.isAllowed <;> simp [Ending.code, allowed]
  unfold exitCode
  dsimp only
  split <;> omega

/-- All that a job is to print, once it has found something out, can be printed. -/
structure Job.PrintsWhole (reserve : Text.Reserve) (job : Job) (usual : Path) (time : String)
    (disk : Disk) : Prop where
  checked : ∀ document, job.Checks reserve usual time disk document →
    Printable reserve (summaryLines job.policy document)
  decided : ∀ outcome, job.Decides reserve usual time disk (.ok outcome) →
    Printable reserve (decisionLines outcome)

/-- A job that starts prints all it is to print where the lines of its ending can be printed. -/
theorem Job.Starts.printsWhole {job : Job} {config : Config} {session : Session}
    (starts : job.Starts reserve usual time disk config session)
    (printable : Printable reserve
      ((job.ending reserve config session.disk session.disk).lines job.policy)) :
    job.PrintsWhole reserve usual time disk where
  checked document checks := by
    rw [starts.checks_iff] at checks
    rwa [checks] at printable
  decided outcome decides := by
    rw [starts.decides_iff] at decides
    rwa [decides] at printable

namespace Job.EndsIn

variable {job : Job} {ending : Ending}

/-- The lines of the ending of a job that prints all it is to print can be printed. -/
theorem printable (ends : job.EndsIn reserve usual time disk ending)
    (whole : job.PrintsWhole reserve usual time disk) :
    Printable reserve (ending.lines job.policy) := by
  cases ending with
  | failed => exact nofun
  | checked document => exact whole.checked document ((ends.checks_iff document).mpr rfl)
  | decided outcome => exact whole.decided outcome ((ends.decides_iff outcome).mpr rfl)

/-- A job succeeds where its ending does, if all that it prints can be printed. -/
theorem succeeds_iff (ends : job.EndsIn reserve usual time disk ending)
    (whole : job.PrintsWhole reserve usual time disk) :
    job.Succeeds reserve usual time disk ↔ ending.exitCode reserve job.policy = 0 := by
  rw [Ending.exitCode_of_printable (ends.printable whole)]
  simp only [Succeeds, ends.checks_iff, ends.decides_iff]
  cases ending with
  | failed => simp [Ending.code]
  | checked document => simp [Ending.code]
  | decided outcome => simp [Ending.code, Outcome.isAllowed]

/-- Nothing is printed but what the job found out. -/
theorem output_cases (ends : job.EndsIn reserve usual time disk ending)
    (whole : job.PrintsWhole reserve usual time disk) :
    ending.output reserve job.policy = "" ∨
      (∃ document, job.Checks reserve usual time disk document ∧
        ending.output reserve job.policy = printedText (summaryLines job.policy document)) ∨
      ∃ outcome, job.Decides reserve usual time disk (.ok outcome) ∧
        ending.output reserve job.policy = printedText (decisionLines outcome) := by
  rw [Ending.output_of_printable (ends.printable whole)]
  simp only [ends.checks_iff, ends.decides_iff]
  cases ending with
  | failed => exact Or.inl rfl
  | checked document => exact Or.inr (Or.inl ⟨document, rfl, rfl⟩)
  | decided outcome => exact Or.inr (Or.inr ⟨outcome, rfl, rfl⟩)

/-- A decision that is named has been made. -/
theorem decides_of_names (ends : job.EndsIn reserve usual time disk ending) {decision : Decision}
    (named : Names (ending.output reserve job.policy) decision) :
    ∃ outcome, job.Decides reserve usual time disk (.ok outcome) ∧
      outcome.decision = decision := by
  simp only [ends.decides_iff]
  cases ending with
  | failed => exact absurd named not_names_empty
  | checked document => exact absurd named not_names_output_checked
  | decided outcome => exact ⟨outcome, rfl, names_output_decided_iff.mp named⟩

end Job.EndsIn

/--
The exit code tells mistakes in the arguments, success and failure apart.

Which arguments are mistaken depends on no file. Otherwise the run succeeds exactly where everything
loads and nothing is denied, as long as all that it prints has an encoding. It prints the name of a
decision at the start only where the evaluation led to that decision.
-/
theorem run_exitCode (read : Arguments.of words = .ok arguments)
    (helpless : arguments.has .help = false) (versionless : arguments.has .version = false)
    (faultless : Order.faultIn? disk arguments = none)
    (logs : ∀ job, Order.jobOf arguments = .ok job → job.LogsApart reserve usual time disk) :
    ((run reserve usual time disk words).exitCode = 2 ∧
      (run reserve usual time disk words).output = "" ↔ arguments.Misused) ∧
    (¬ arguments.Misused → ∃ job : Job, job.GivenBy arguments ∧
      (job.PrintsWhole reserve usual time disk →
        ((run reserve usual time disk words).exitCode = 0 ↔
          job.Succeeds reserve usual time disk) ∧
        ((run reserve usual time disk words).exitCode = 1 ↔
          ¬ job.Succeeds reserve usual time disk) ∧
        ((run reserve usual time disk words).output = "" ∨
          (∃ document, job.Checks reserve usual time disk document ∧
            (run reserve usual time disk words).output =
              printedText (summaryLines job.policy document)) ∨
          ∃ outcome, job.Decides reserve usual time disk (.ok outcome) ∧
            (run reserve usual time disk words).output = printedText (decisionLines outcome))) ∧
      (job.Fails reserve usual time disk → (run reserve usual time disk words).output = "") ∧
      ∀ decision, Names (run reserve usual time disk words).output decision →
        ∃ outcome, job.Decides reserve usual time disk (.ok outcome) ∧
          outcome.decision = decision) := by
  have ordered : Order.of disk words = (Order.jobOf arguments).map Order.work := by
    rw [Order.of_eq read faultless, helpless, versionless]
    rfl
  cases asked : Order.jobOf arguments with
  | error fault =>
    have misused : arguments.Misused := by
      by_contra used
      obtain ⟨job, made⟩ := Order.exists_jobOf_eq_ok_iff.mpr used
      rw [asked] at made
      cases made
    have mistaken : run reserve usual time disk words =
        ⟨2, "", Text.withoutSequences fault.report, disk⟩ := by
      rw [run, ordered, asked]
      rfl
    rw [mistaken]
    exact ⟨iff_of_true ⟨rfl, rfl⟩ misused, fun used => absurd misused used⟩
  | ok job =>
    have used : ¬ arguments.Misused := Order.exists_jobOf_eq_ok_iff.mp ⟨job, asked⟩
    have worked : run reserve usual time disk words = job.run reserve usual time disk := by
      rw [run, ordered, asked]
      rfl
    have given := (Order.jobOf_eq_ok_iff.mp asked).2
    obtain ⟨ending, ends⟩ := (logs job asked).endsIn
    have few : ending.exitCode reserve job.policy ≤ 1 := Ending.exitCode_le_one
    rw [worked, ends.exitCode, ends.output]
    refine ⟨iff_of_false (fun mistaken => ?_) used, fun _ => ⟨job, given, fun whole => ?_,
      fun fails => ?_, fun decision => ends.decides_of_names⟩⟩
    · omega
    · refine ⟨(ends.succeeds_iff whole).symm, ?_, ends.output_cases whole⟩
      rw [ends.succeeds_iff whole]
      omega
    · rw [ends.failed fails]
      rfl

/-- A file that holds a tree. -/
def treeFile (location : Location) (tree : Json) : Location × List UInt8 :=
  (location, Text.Utf8.encode (tree.write .first))

/-- Files of a project: a policy for teams, a context, and settings with and without a log file. -/
def projectDisk : Disk where
  start := ["work"]
  folders := [["work"]]
  files := [
    treeFile ["work", "policy.json"] (.object [("Version", .string "2012-10-17"),
      ("Statement", .array [.object [("Sid", .string "Read"), ("Effect", .string "Allow"),
        ("Action", .string "s3:Get*"), ("Resource", .string "*"),
        ("Condition", .object [("ForAllValues:StringEquals", .object [
          ("Team", .array [.string "ops", .string "dev", .string "web", .string "ci"])])])]])]),
    treeFile ["work", "context.json"] (.object [("global", .object [("TEAM", .string "dev")]),
      ("resources", .object [("arn:aws:s3:::b/k", .object [("team", .array [.string "web"])])])]),
    treeFile ["work", "config.json"] (.object [
      ("logging", .object [("log_file", .string "logs/run.jsonl"), ("log_level", .string "INFO")]),
      ("evaluation", .object [("default_context", .object [("tEAM", .array [.string "ops"])])])]),
    treeFile ["work", "quiet.json"] (.object [
      ("evaluation", .object [("default_context", .object [("team", .string "ops")])])])]

/-- The place of settings that are not there. -/
def absentSettings : Path := ⟨1, ["etc", "config.json"]⟩

/-- A time. -/
def someTime : String := "2024-01-01T00:00:00Z"

/-- Arguments that ask for a decision. -/
def projectWords : List String :=
  ["--policy", "policy.json", "--config", "config.json", "--context-file", "context.json",
    "--action", "s3:GetObject", "--resource", "arn:aws:s3:::b/k", "-c", " teaM =ci"]

/-- The options in these arguments. -/
def projectArguments : Arguments :=
  ⟨[⟨.policy, "policy.json"⟩, ⟨.config, "config.json"⟩, ⟨.contextFile, "context.json"⟩,
    ⟨.action, "s3:GetObject"⟩, ⟨.resource, "arn:aws:s3:::b/k"⟩, ⟨.context, " teaM =ci"⟩], []⟩

/-- The job that they ask for. -/
def projectJob : Job where
  policy := ⟨0, ["policy.json"]⟩
  request := some ⟨"s3:GetObject", "arn:aws:s3:::b/k", none, ⟨[("team", ["ci"])]⟩⟩
  context := ⟨[("team", ["ci"])]⟩
  contextFile := some ⟨0, ["context.json"]⟩
  config := some ⟨0, ["config.json"]⟩
  logLevel := none

/-- The settings of the project. -/
def projectConfig : Config := ⟨.info, some ⟨0, ["logs", "run.jsonl"]⟩, ⟨[("team", ["ops"])]⟩⟩

/-- The run of the project with its log open. -/
def projectSession : Session where
  reserve := .first
  time := someTime
  level := .info
  logFile := some ["work", "logs", "run.jsonl"]
  disk := { projectDisk with
    folders := [["work"], ["work", "logs"]]
    files := projectDisk.files ++ [(["work", "logs", "run.jsonl"], [])] }
  error := ""

/-- The job of the project starts. -/
theorem starts_projectJob :
    projectJob.Starts .first absentSettings someTime projectDisk projectConfig projectSession where
  settings := eq_ok_of_toOption (by decide +kernel)
  log := rfl

/-- The log of the project is none of its other files. -/
theorem apart_projectSession : ∀ path ∈ projectJob.inputs, projectSession.Apart path := by
  decide

/-- The words of the project are taken apart into its options. -/
theorem of_projectWords : Arguments.of projectWords = .ok projectArguments := rfl

/-- The options of the project lead to its job. -/
theorem jobOf_projectArguments : Order.jobOf projectArguments = .ok projectJob := rfl

/-- The project is asked for this job. -/
theorem of_projectDisk : Order.of projectDisk projectWords = .ok (.work projectJob) := by
  have faultless : Order.faultIn? projectDisk projectArguments = none := rfl
  rw [Order.of_eq of_projectWords faultless, jobOf_projectArguments]
  rfl

/-- The request of the project, with the values of all sources. -/
def projectRequest : Request :=
  ⟨"s3:GetObject", "arn:aws:s3:::b/k", none, ⟨[("team", ["ops", "dev", "web", "ci"])]⟩⟩

/-- The policy of the project. -/
def projectDocument : Policy.Document :=
  ⟨"2012-10-17", none, [⟨0, some "Read", .allow, .only ["s3:Get*"], .only ["*"], none,
    some [⟨⟨"ForAllValues:StringEquals", .stringEquals, false, some .forAllValues⟩, "Team",
      ["ops", "dev", "web", "ci"]⟩]⟩]⟩

/-- The job of the project gets to the evaluation of its request. -/
theorem reaches_projectJob : projectJob.Reaches .first projectConfig projectSession.disk
    projectSession.disk projectDocument projectRequest where
  policy := eq_ok_of_toOption (by decide +kernel)
  request := by
    have found : projectJob.fileContext .first "arn:aws:s3:::b/k" projectSession.disk =
        .ok ⟨[("team", ["dev", "web"])]⟩ :=
      eq_ok_of_toOption (by decide +kernel)
    exact ⟨_, _, rfl, found, rfl⟩

/-- The request of the project is allowed. -/
theorem evaluate_projectRequest :
    projectDocument.evaluate projectRequest = .ok ⟨.allow, ["Read"]⟩ := rfl

/-- The run of the project succeeds, and it names the decision that was made. -/
theorem run_exitCode_project :
    ¬ projectArguments.Misused ∧
    (run .first absentSettings someTime projectDisk projectWords).exitCode = 0 ∧
    ∃ job : Job, job.GivenBy projectArguments ∧
      job.Succeeds .first absentSettings someTime projectDisk ∧
      ∃ outcome, job.Decides .first absentSettings someTime projectDisk (.ok outcome) ∧
        outcome.decision = .allow := by
  have used : ¬ projectArguments.Misused :=
    Order.exists_jobOf_eq_ok_iff.mp ⟨projectJob, jobOf_projectArguments⟩
  have logs : ∀ job, Order.jobOf projectArguments = .ok job →
      job.LogsApart .first absentSettings someTime projectDisk := by
    intro job made
    rw [jobOf_projectArguments] at made
    cases made
    exact starts_projectJob.logsApart apart_projectSession
  obtain ⟨job, given, success, -, named⟩ :=
    (run_exitCode of_projectWords rfl rfl rfl logs).2 used
  have same : job = projectJob := by
    have right := (Order.jobOf_eq_ok_iff.mp jobOf_projectArguments).1
    have asked := Order.jobOf_eq_ok_iff.mpr ⟨right, given⟩
    rw [jobOf_projectArguments] at asked
    exact (Except.ok.inj asked).symm
  subst same
  have ending : projectJob.ending .first projectConfig projectSession.disk projectSession.disk =
      .decided ⟨.allow, ["Read"]⟩ :=
    Job.ending_eq_decided_iff.mpr ⟨_, _, reaches_projectJob, evaluate_projectRequest⟩
  have printable : Printable .first (decisionLines ⟨.allow, ["Read"]⟩) := by decide
  have whole : projectJob.PrintsWhole .first absentSettings someTime projectDisk :=
    starts_projectJob.printsWhole (by rw [ending]; exact printable)
  have worked : run .first absentSettings someTime projectDisk projectWords =
      projectJob.run .first absentSettings someTime projectDisk := by
    rw [run, of_projectDisk]
  obtain ⟨code, output⟩ := starts_projectJob.run_ending apart_projectSession
  rw [← worked, ending, Ending.exitCode_of_printable printable] at code
  rw [← worked, ending] at output
  have names : Names (run .first absentSettings someTime projectDisk projectWords).output
      .allow := by
    rw [output]
    exact names_output_decided_iff.mpr rfl
  exact ⟨used, code, projectJob, given, (success whole).1.mp code, named .allow names⟩

/-- A text that is half of a surrogate pair. -/
def halfText : String := String.ofList [Text.Reserve.first.standIn 0xD800]

/-- Files with two policies: an identifier of two lines, and texts that have no encoding. -/
def textsDisk : Disk where
  start := ["work"]
  folders := [["work"]]
  files := [
    treeFile ["work", "guard.json"] (.object [("Version", .string "2012-10-17"),
      ("Statement", .object [("Sid", .string "Guard\nAllow"), ("Effect", .string "Deny"),
        ("Action", .string "*"), ("Resource", .string "*")])]),
    treeFile ["work", "halved.json"] (.object [("Version", .string "2012-10-17"),
      ("Id", .string halfText), ("Statement", .object [("Sid", .string halfText),
        ("Effect", .string "Allow"), ("Action", .string "*"), ("Resource", .string "*")])])]

/-- The job of looking at one of these policies. -/
def textsJob (name : String) (request : Option Request) : Job where
  policy := ⟨0, [name]⟩
  request := request
  context := Context.empty
  contextFile := none
  config := none
  logLevel := none

/-- The run of such a job, which has no settings. -/
def textsSession : Session := ⟨.first, someTime, .warning, none, textsDisk, ""⟩

/-- Such a job starts with the settings for the case that there are none. -/
theorem starts_textsJob (name : String) (request : Option Request) :
    (textsJob name request).Starts .first absentSettings someTime textsDisk Config.default
      textsSession where
  settings := rfl
  log := rfl

/-- Without a file for the log, none of the files is one. -/
theorem apart_textsSession (path : Path) : textsSession.Apart path := nofun

/-- A request for whatever is there. -/
def anyRequest : Request := ⟨"s3:GetObject", "*", none, Context.empty⟩

/-- The policy with texts that have no encoding. -/
def halvedDocument : Policy.Document :=
  ⟨"2012-10-17", some halfText,
    [⟨0, some halfText, .allow, .only ["*"], .only ["*"], none, none⟩]⟩

/-- The policy with an identifier of two lines denies every request. -/
theorem decides_guard : (textsJob "guard.json" (some anyRequest)).Decides .first absentSettings
    someTime textsDisk (.ok ⟨.explicitDeny, ["Guard\nAllow"]⟩) := by
  have reaches : (textsJob "guard.json" (some anyRequest)).Reaches .first Config.default textsDisk
      textsDisk ⟨"2012-10-17", none,
        [⟨0, some "Guard\nAllow", .deny, .only ["*"], .only ["*"], none, none⟩]⟩ anyRequest :=
    ⟨eq_ok_of_toOption (by decide +kernel), _, _, rfl, rfl, rfl⟩
  exact ⟨_, _, starts_textsJob _ _, _, _, reaches, rfl⟩

/-- The policy with texts that have no encoding is right. -/
theorem checks_halved : (textsJob "halved.json" none).Checks .first absentSettings someTime
    textsDisk halvedDocument :=
  ⟨_, _, starts_textsJob _ _, eq_ok_of_toOption (by decide +kernel), rfl⟩

/--
Texts of a policy can name a decision that was not made, and break off a run that has succeeded.

An identifier has the name of another decision on its second line. A name that is half of a
surrogate pair cannot be printed, and so the run fails although nothing is wrong with the policy.
-/
theorem printed_texts_mislead :
    Order.of textsDisk ["--policy", "guard.json", "--action", "s3:GetObject", "--resource", "*"] =
      .ok (.work (textsJob "guard.json" (some anyRequest))) ∧
    (textsJob "guard.json" (some anyRequest)).Decides .first absentSettings someTime textsDisk
      (.ok ⟨.explicitDeny, ["Guard\nAllow"]⟩) ∧
    (run .first absentSettings someTime textsDisk
      ["--policy", "guard.json", "--action", "s3:GetObject", "--resource", "*"]).output =
        "ExplicitDeny\n  Deciding statements: Guard\nAllow\n" ∧
    Order.of textsDisk ["--policy", "halved.json"] =
      .ok (.work (textsJob "halved.json" none)) ∧
    (textsJob "halved.json" none).Succeeds .first absentSettings someTime textsDisk ∧
    (run .first absentSettings someTime textsDisk ["--policy", "halved.json"]).exitCode = 1 ∧
    (run .first absentSettings someTime textsDisk ["--policy", "halved.json"]).output =
      "✓ Policy valid: halved.json\n  Version: 2012-10-17\n" := by
  have guardAsked : Order.of textsDisk
      ["--policy", "guard.json", "--action", "s3:GetObject", "--resource", "*"] =
        .ok (.work (textsJob "guard.json" (some anyRequest))) := rfl
  have halvedAsked : Order.of textsDisk ["--policy", "halved.json"] =
      .ok (.work (textsJob "halved.json" none)) := rfl
  have guard := (starts_textsJob "guard.json" (some anyRequest)).run_ending
    fun path _ => apart_textsSession path
  have halved := (starts_textsJob "halved.json" none).run_ending
    fun path _ => apart_textsSession path
  rw [(starts_textsJob _ _).decides_iff.mp decides_guard] at guard
  rw [(starts_textsJob _ _).checks_iff.mp checks_halved] at halved
  have denied : (Ending.decided ⟨.explicitDeny, ["Guard\nAllow"]⟩).output .first
      ⟨0, ["guard.json"]⟩ = "ExplicitDeny\n  Deciding statements: Guard\nAllow\n" := by
    decide
  have broken : (Ending.checked halvedDocument).exitCode .first ⟨0, ["halved.json"]⟩ = 1 ∧
      (Ending.checked halvedDocument).output .first ⟨0, ["halved.json"]⟩ =
        "✓ Policy valid: halved.json\n  Version: 2012-10-17\n" := by
    decide +kernel
  simp only [run, guardAsked, halvedAsked]
  exact ⟨trivial, decides_guard, guard.2.trans denied, trivial, Or.inl ⟨_, checks_halved⟩,
    halved.1.trans broken.1, halved.2.trans broken.2⟩

end AccessPolicy.CommandLine
